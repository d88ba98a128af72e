import ArtifactSearch.Workbook.Layout
import Mathlib.Data.List.Basic

/-!
# ArtifactSearch.Proofs.Workbook.Edit

**Edits that succeed are changes of cells.** Within the limits of a sheet every change
of a cell succeeds (`apply_change`), and a value can be written to any cell that is not
covered (`apply_setValue`). On the way an edit changes its cell several times: to make
it, to give it a value, to give it a look. `update_update` turns that into one change.
-/

namespace ArtifactSearch

namespace Sheet

namespace Edit

variable {α β : Type} {sheet next : Sheet}

@[simp] theorem apply_pure (a : α) (sheet : Sheet) :
    Edit.apply (pure a) sheet = (.ok a, sheet) := rfl

@[simp] theorem apply_get (sheet : Sheet) : Edit.apply get sheet = (.ok sheet, sheet) := rfl

@[simp] theorem apply_modify (f : Sheet → Sheet) (sheet : Sheet) :
    Edit.apply (modify f) sheet = (.ok (), f sheet) := rfl

theorem apply_bind (edit : Edit α) (f : α → Edit β) (sheet : Sheet) :
    Edit.apply (edit >>= f) sheet =
      match Edit.apply edit sheet with
      | (.ok a, next) => Edit.apply (f a) next
      | (.error error, next) => (.error error, next) := by
  unfold Edit.apply ExceptT.run StateT.run
  simp only [bind, ExceptT.bind, ExceptT.mk, StateT.bind, ExceptT.bindCont]
  cases edit sheet with
  | mk outcome next => cases outcome <;> rfl

theorem apply_bind_of_ok {edit : Edit α} {a : α} (h : Edit.apply edit sheet = (.ok a, next))
    (f : α → Edit β) : Edit.apply (edit >>= f) sheet = Edit.apply (f a) next := by
  rw [apply_bind, h]

theorem ok_of_bind {edit : Edit α} {f : α → Edit β} {b : β}
    (h : (Edit.apply (edit >>= f) sheet).1 = .ok b) :
    ∃ a next, Edit.apply edit sheet = (.ok a, next) ∧ (Edit.apply (f a) next).1 = .ok b := by
  rw [apply_bind] at h
  cases hedit : Edit.apply edit sheet with
  | mk outcome next =>
      rw [hedit] at h
      cases outcome with
      | error error => cases h
      | ok a => exact ⟨a, next, rfl, h⟩

end Edit

/-! ### Changes of one cell -/

variable {sheet : Sheet} {row column : Nat}

theorem rightpad_modify {α : Type} (n : Nat) (filler : α) (f : α → α) (i : Nat) (xs : List α) :
    ((xs.rightpad n filler).modify i f).rightpad n filler = (xs.rightpad n filler).modify i f := by
  rw [List.rightpad, List.length_modify, List.length_rightpad]
  simp [Nat.sub_eq_zero_of_le (Nat.le_max_left n xs.length)]

/-- Two changes of one cell are one. -/
theorem update_update (sheet : Sheet) (row column : Nat) (f g : Cell → Cell) :
    (sheet.update row column f).update row column g = sheet.update row column (g ∘ f) := by
  unfold update
  dsimp only
  rw [rightpad_modify, List.modify_modify_eq]
  congr 2
  funext cells
  simp only [Function.comp_apply, rightpad_modify, List.modify_modify_eq]

theorem cellAt_update_of_pos (hrow : 0 < row) (hcolumn : 0 < column) (f : Cell → Cell) {r c : Nat}
    (hr : 0 < r) (hc : 0 < c) :
    (sheet.update row column f).cellAt r c =
      if r = row ∧ c = column then f (sheet.cellAt row column) else sheet.cellAt r c := by
  obtain ⟨row, rfl⟩ := Nat.exists_eq_succ_of_ne_zero (by omega : row ≠ 0)
  obtain ⟨column, rfl⟩ := Nat.exists_eq_succ_of_ne_zero (by omega : column ≠ 0)
  obtain ⟨r, rfl⟩ := Nat.exists_eq_succ_of_ne_zero (by omega : r ≠ 0)
  obtain ⟨c, rfl⟩ := Nat.exists_eq_succ_of_ne_zero (by omega : c ≠ 0)
  rw [cellAt_update]
  simp only [Nat.succ_eq_add_one, Nat.add_right_cancel_iff]

theorem cellAt_update_self (hrow : 0 < row) (hcolumn : 0 < column) (f : Cell → Cell) :
    (sheet.update row column f).cellAt row column = f (sheet.cellAt row column) := by
  rw [cellAt_update_of_pos hrow hcolumn f hrow hcolumn, if_pos ⟨rfl, rfl⟩]

/-- A row and a column that a sheet has. -/
structure Within (row column : Nat) : Prop where
  row : 0 < row ∧ row ≤ lastRow
  column : 0 < column

theorem apply_change (h : Within row column) (f : Cell → Cell) (sheet : Sheet) :
    Edit.apply (change row column f) sheet = (.ok (), sheet.update row column f) := by
  have hrow := h.row
  have hcolumn := h.column
  unfold change
  rw [if_neg (by simp; omega), if_neg (by omega)]
  rfl

theorem apply_restyle (h : Within row column) (f : Style → Style) (sheet : Sheet) :
    Edit.apply (restyle row column f) sheet
      = (.ok (), sheet.update row column (fun cell => { cell with style := f cell.style })) :=
  apply_change h _ sheet

/-- The cell with a value. -/
def put (value : Value) (kind : CellKind) (cell : Cell) : Cell :=
  { cell with value := value, kind := kind }

/-- A change that covers no cell leaves a free one free. -/
theorem free_update (h : Within row column) (f : Cell → Cell)
    (hf : ∀ cell, (f cell).covered = cell.covered)
    (hfree : (sheet.cellAt row column).covered = false) :
    ((sheet.update row column f).cellAt row column).covered = false := by
  rw [cellAt_update_self h.row.1 h.column, hf, hfree]

theorem apply_claim (h : Within row column) (hfree : (sheet.cellAt row column).covered = false) :
    Edit.apply (claim row column) sheet = (.ok (), sheet.update row column id) := by
  unfold claim
  rw [Edit.apply_bind_of_ok (apply_change h id sheet), Edit.apply_bind_of_ok (Edit.apply_get _)]
  rw [Int.toNat_natCast, Int.toNat_natCast, cellAt_update_self h.row.1 h.column, id, hfree]
  rfl

theorem apply_claim_of_covered (h : Within row column)
    (hcovered : (sheet.cellAt row column).covered = true) :
    Edit.apply (claim row column) sheet = (.error .covered, sheet.update row column id) := by
  unfold claim
  rw [Edit.apply_bind_of_ok (apply_change h id sheet), Edit.apply_bind_of_ok (Edit.apply_get _)]
  rw [Int.toNat_natCast, Int.toNat_natCast, cellAt_update_self h.row.1 h.column, id, hcovered]
  rfl

/-- Beside the cells of a sheet, nothing changes. -/
theorem apply_change_of_outside {row column : Int}
    (h : ¬ (0 < row ∧ row ≤ lastRow ∧ 0 < column)) (f : Cell → Cell) (sheet : Sheet) :
    ∃ error, Edit.apply (change row column f) sheet = (.error error, sheet) := by
  unfold change
  by_cases hlow : row < 1 ∨ column < 1
  · rw [if_pos (by simpa using hlow)]
    exact ⟨_, rfl⟩
  · rw [if_neg (by simpa using hlow), if_pos (by omega)]
    exact ⟨_, rfl⟩

theorem apply_setValue (h : Within row column)
    (hfree : (sheet.cellAt row column).covered = false) (value : Value) (kind : CellKind) :
    Edit.apply (setValue row column value kind) sheet
      = (.ok (), sheet.update row column (put value kind)) := by
  unfold setValue
  rw [Edit.apply_bind_of_ok (apply_claim h hfree), apply_change h, update_update]
  rfl

/-! ### Values of tables -/

/-- What a cell of a table holds, and what it is marked to hold. -/
def entry : ColumnKind → Value → Value × CellKind
  | .number, value => (value, kindOf value)
  | .text, value | .index, value => (.text (plainText value), .text)

/-- The cell with a value of a table. -/
def putData (kind : ColumnKind) (row : Int) (value : Value) (cell : Cell) : Cell :=
  { put (entry kind value).1 (entry kind value).2 cell with
    style := Style.data kind row { cell.style with border := .data } }

theorem apply_writeText (h : Within row column)
    (hfree : (sheet.cellAt row column).covered = false) (value : Value) :
    Edit.apply (writeText row column value) sheet
      = (.ok (), sheet.update row column (put (.text (plainText value)) .text)) :=
  apply_setValue h hfree _ _

/-- A value goes into any column but a text into one of numbers. -/
def Fits (kind : ColumnKind) (value : Value) : Prop := kind = .number → ∀ s, value ≠ .text s

/-- The writing of the value alone. -/
def writeEntry (kind : ColumnKind) (row column : Int) (value : Value) : Edit Unit :=
  match kind with
  | .number => writeTyped row column value
  | .text | .index => writeText row column value

theorem writeData_eq (kind : ColumnKind) (row column : Int) (value : Value) :
    writeData kind row column value =
      restyle row column (fun style => { style with border := .data }) >>= fun _ =>
        writeEntry kind row column value >>= fun _ => restyle row column (Style.data kind row) := by
  cases kind <;> rfl

theorem apply_writeEntry {kind : ColumnKind} {value : Value} (h : Within row column)
    (hfree : (sheet.cellAt row column).covered = false) (hfits : Fits kind value) :
    Edit.apply (writeEntry kind row column value) sheet
      = (.ok (), sheet.update row column (put (entry kind value).1 (entry kind value).2)) := by
  cases kind with
  | text => exact apply_writeText h hfree value
  | index => exact apply_writeText h hfree value
  | number =>
      cases value with
      | text s => exact absurd rfl (hfits rfl s)
      | number n => exact apply_setValue h hfree _ _
      | truth b => exact apply_setValue h hfree _ _
      | nothing => exact apply_setValue h hfree _ _

/-- Among numbers, a text is cut and may be anything. -/
theorem apply_writeEntry_text (h : Within row column)
    (hfree : (sheet.cellAt row column).covered = false) {s : Text}
    (hlegal : (s.take maxText).any isControl = false) :
    Edit.apply (writeEntry .number row column (.text s)) sheet
      = (.ok (), sheet.update row column
          (put (.text (s.take maxText)) (kindOf (.text (s.take maxText))))) := by
  unfold writeEntry writeTyped
  dsimp only
  rw [Edit.apply_bind_of_ok (apply_claim h hfree), hlegal, if_neg Bool.false_ne_true,
    apply_setValue h (free_update h id (fun _ => rfl) hfree), update_update]
  rfl

/-- With a control character, it only leaves a mark. -/
theorem apply_writeEntry_control (h : Within row column)
    (hfree : (sheet.cellAt row column).covered = false) {s : Text}
    (hcontrol : (s.take maxText).any isControl = true) :
    Edit.apply (writeEntry .number row column (.text s)) sheet
      = (.error (.controlCharacter (s.take maxText)),
          sheet.update row column fun cell => { cell with kind := .text }) := by
  unfold writeEntry writeTyped
  dsimp only
  rw [Edit.apply_bind_of_ok (apply_claim h hfree), hcontrol, if_pos rfl,
    Edit.apply_bind_of_ok (apply_change h _ _), update_update]
  rfl

theorem apply_writeData {kind : ColumnKind} {value : Value} (h : Within row column)
    (hfree : (sheet.cellAt row column).covered = false) (hfits : Fits kind value) :
    Edit.apply (writeData kind row column value) sheet
      = (.ok (), sheet.update row column (putData kind row value)) := by
  have hstill := free_update h
    (fun cell => { cell with style := { cell.style with border := .data } }) (fun _ => rfl) hfree
  rw [writeData_eq, Edit.apply_bind_of_ok (apply_restyle h _ sheet),
    Edit.apply_bind_of_ok (apply_writeEntry h hstill hfits), apply_restyle h, update_update,
    update_update]
  rfl

end Sheet

end ArtifactSearch
