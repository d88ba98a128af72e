import ArtifactSearch.Proofs.Workbook.Edit

/-!
# ArtifactSearch.Proofs.Workbook.Journal

**What a sheet holds is a replay of what was written to it.** Looks apart
(`Cell.bare`), only three things ever happen to a cell: a value is written to it, a
value is refused and leaves a mark, or the cell is covered (`Act`). An edit comes with a
plan of the values it is to write (`Write`), and the sheet that it finds decides how far
the plan is carried out (`journal`). `Journaled` says that the sheet an edit leaves is the
one before with its journal replayed, also when the edit fails. Edits are followed through
all their loops with `Performs`, which says in addition when an edit ends without failing.
-/

namespace ArtifactSearch

/-- The cell without its look. -/
def Cell.bare (cell : Cell) : Cell := { cell with style := .plain }

@[simp] theorem Cell.bare_covered (cell : Cell) : cell.bare.covered = cell.covered := rfl

/-- The value with no more text than a cell holds. -/
def Value.cut : Value → Value
  | .text s => .text (s.take Sheet.maxText)
  | value => value

namespace Sheet

/-! ### Plans and journals -/

/-- A value to write to a cell. Titles, headings and single texts are of kind text. -/
structure Write where
  /-- The row of the cell. -/
  row : Int
  /-- Its column. -/
  column : Int
  /-- What it is written as. -/
  kind : ColumnKind
  /-- The value. -/
  value : Value
  deriving Repr, DecidableEq

namespace Write

/-- What the cell holds then, and what it is marked to hold. -/
def content (write : Write) : Value × CellKind :=
  match write.kind with
  | .number => (write.value.cut, kindOf write.value.cut)
  | .text | .index => (.text (plainText write.value), .text)

/-- Whether the value is refused: a text with a control character, where control
characters are not removed. -/
def isRefused (write : Write) : Bool :=
  match write.kind, write.value.cut with
  | .number, .text s => s.any isControl
  | _, _ => false

theorem content_of_ne (write : Write) (h : write.kind ≠ .number) :
    write.content = (.text (plainText write.value), .text) := by
  unfold content
  cases hkind : write.kind with
  | text => rfl
  | index => rfl
  | number => exact absurd hkind h

theorem isRefused_of_ne (write : Write) (h : write.kind ≠ .number) : write.isRefused = false := by
  unfold isRefused
  cases hkind : write.kind with
  | text => rfl
  | index => rfl
  | number => exact absurd hkind h

/-- Whether it goes to the cell in a row and a column. -/
def IsAt (write : Write) (row column : Nat) : Prop := write.row = row ∧ write.column = column

instance (write : Write) (row column : Nat) : Decidable (write.IsAt row column) :=
  inferInstanceAs (Decidable (_ ∧ _))

end Write

/-- What happens to cells, apart from their looks. -/
inductive Act where
  /-- A value was written. -/
  | written (write : Write)
  /-- A value was refused: its cell keeps what it holds, but is marked as text. -/
  | refused (write : Write)
  /-- The first cells of a row were merged. -/
  | merged (row columns : Nat)
  deriving Repr, DecidableEq

/-- What becomes of the cell in a row and a column. -/
def Act.on (row column : Nat) (cell : Cell) : Act → Cell
  | .written write =>
    if write.IsAt row column then put write.content.1 write.content.2 cell else cell
  | .refused write => if write.IsAt row column then { cell with kind := .text } else cell
  | .merged r columns => if row = r ∧ 1 < column ∧ column ≤ columns then .hidden else cell

/-- Whether there is a cell in a row and a column that takes values. -/
def isOpen (sheet : Sheet) (row column : Int) : Bool :=
  0 < row && row ≤ lastRow && 0 < column && !(sheet.cellAt row.toNat column.toNat).covered

/-- Whether the value is written. -/
def takes (sheet : Sheet) (write : Write) : Bool :=
  sheet.isOpen write.row write.column && !write.isRefused

/-- What happens when values are written one after the other, as far as they are taken,
and something else in the end. -/
def journal (sheet : Sheet) (ending : List Act) : List Write → List Act
  | [] => ending
  | write :: rest =>
    if sheet.isOpen write.row write.column then
      if write.isRefused then [.refused write] else .written write :: sheet.journal ending rest
    else []

variable {sheet next last : Sheet} {ending : List Act} {plan rest : List Write}

theorem journal_append (sheet : Sheet) (ending : List Act) (plan rest : List Write) :
    sheet.journal ending (plan ++ rest) = sheet.journal (sheet.journal ending rest) plan := by
  induction plan with
  | nil => rfl
  | cons write plan ih => rw [List.cons_append, journal, journal, ih]

theorem journal_of_takes (h : ∀ write ∈ plan, sheet.takes write) :
    sheet.journal ending plan = plan.map .written ++ ending := by
  induction plan with
  | nil => rfl
  | cons write plan ih =>
      obtain ⟨htakes, hplan⟩ := List.forall_mem_cons.mp h
      rw [takes, Bool.and_eq_true, Bool.not_eq_true'] at htakes
      rw [journal, if_pos htakes.1, htakes.2, if_neg Bool.false_ne_true, ih hplan, List.map_cons,
        List.cons_append]

/-- The ending does not happen if a value is not taken. -/
theorem journal_of_not_takes (h : ¬ ∀ write ∈ plan, sheet.takes write) (ending other : List Act) :
    sheet.journal ending plan = sheet.journal other plan := by
  induction plan with
  | nil => exact absurd (fun _ hmem => nomatch hmem) h
  | cons write plan ih =>
      rw [journal, journal]
      split
      · rename_i hopen
        split
        · rfl
        · rename_i hlegal
          rw [ih fun hplan => h (List.forall_mem_cons.mpr ⟨by simp [takes, hopen, hlegal], hplan⟩)]
      · rfl

theorem mem_journal {act : Act} (h : act ∈ sheet.journal ending plan) :
    (∃ write ∈ plan, act = .written write) ∨
      (∃ write ∈ plan, write.isRefused ∧ act = .refused write) ∨ act ∈ ending := by
  induction plan with
  | nil => exact .inr (.inr h)
  | cons write plan ih =>
      rw [journal] at h
      split at h
      · split at h
        · rename_i hrefused
          exact .inr (.inl ⟨write, List.mem_cons_self, hrefused, List.mem_singleton.mp h⟩)
        · rcases List.mem_cons.mp h with rfl | h
          · exact .inl ⟨write, List.mem_cons_self, rfl⟩
          · rcases ih h with ⟨other, hmem, hact⟩ | ⟨other, hmem, hact⟩ | hending
            · exact .inl ⟨other, List.mem_cons_of_mem _ hmem, hact⟩
            · exact .inr (.inl ⟨other, List.mem_cons_of_mem _ hmem, hact⟩)
            · exact .inr (.inr hending)
      · cases h

/-! ### Replays -/

/-- The second sheet holds what the first one does with acts replayed. -/
def After (acts : List Act) (sheet next : Sheet) : Prop :=
  ∀ row column, 0 < row → 0 < column →
    (next.cellAt row column).bare = acts.foldl (Act.on row column) (sheet.cellAt row column).bare

theorem After.rfl : After [] sheet sheet := fun _ _ _ _ => Eq.refl _

theorem After.trans {acts more : List Act} (h : After acts sheet next)
    (hmore : After more next last) : After (acts ++ more) sheet last := by
  intro row column hrow hcolumn
  rw [hmore row column hrow hcolumn, h row column hrow hcolumn, List.foldl_append]

theorem covered_foldl {acts : List Act} (h : ∀ row columns, .merged row columns ∉ acts)
    (row column : Nat) (cell : Cell) :
    (acts.foldl (Act.on row column) cell).covered = cell.covered := by
  induction acts generalizing cell with
  | nil => rfl
  | cons act acts ih =>
      rw [List.foldl_cons, ih fun row columns hmem => h row columns (List.mem_cons_of_mem _ hmem)]
      cases act with
      | written write =>
          rw [Act.on]
          split <;> rfl
      | refused write =>
          rw [Act.on]
          split <;> rfl
      | merged row columns => exact absurd List.mem_cons_self (h row columns)

/-- Writing covers no cell. -/
theorem After.isOpen (h : After (sheet.journal [] plan) sheet next) :
    next.isOpen = sheet.isOpen := by
  have hwrites : ∀ row columns, .merged row columns ∉ sheet.journal [] plan := by
    intro row columns hmem
    rcases mem_journal hmem with ⟨write, -, hact⟩ | ⟨write, -, -, hact⟩ | hnil
    · cases hact
    · cases hact
    · cases hnil
  funext row column
  unfold Sheet.isOpen
  by_cases hpos : 0 < row ∧ 0 < column
  · have hcell := congrArg Cell.covered (h row.toNat column.toNat (by omega) (by omega))
    rw [covered_foldl hwrites, Cell.bare_covered, Cell.bare_covered] at hcell
    rw [hcell]
  · rcases not_and_or.mp hpos with hrow | hcolumn
    · simp [hrow]
    · simp [hcolumn]

theorem takes_congr (h : next.isOpen = sheet.isOpen) : next.takes = sheet.takes := by
  funext write
  rw [takes, takes, h]

theorem journal_congr (h : next.isOpen = sheet.isOpen) (ending : List Act) (plan : List Write) :
    next.journal ending plan = sheet.journal ending plan := by
  induction plan with
  | nil => rfl
  | cons write plan ih => rw [journal, journal, h, ih]

/-! ### Edits and their plans -/

/-- The edit carries out a plan, and ends with further acts. -/
structure Journaled {α : Type} (edit : Edit α) (sheet : Sheet) (ending : List Act)
    (plan : List Write) : Prop where
  after : After (sheet.journal ending plan) sheet (Edit.apply edit sheet).2
  /-- It fails if a value is not taken. -/
  taken : ∀ a, (Edit.apply edit sheet).1 = .ok a → ∀ write ∈ plan, sheet.takes write

/-- The edit carries out a plan and does not fail otherwise. -/
structure Performs {α : Type} (edit : Edit α) (sheet : Sheet) (plan : List Write) : Prop
    extends Journaled edit sheet [] plan where
  done : (∀ write ∈ plan, sheet.takes write) → ∃ a, (Edit.apply edit sheet).1 = .ok a

variable {α β : Type} {edit : Edit α} {f : α → Edit β}

/-- Without a plan, an edit is what it ends with. -/
theorem Journaled.of_after (h : After ending sheet (Edit.apply edit sheet).2) :
    Journaled edit sheet ending [] := ⟨h, fun _ _ _ hmem => nomatch hmem⟩

theorem Performs.journaled_bind (h : Performs edit sheet plan)
    (hf : ∀ a next, Edit.apply edit sheet = (.ok a, next) → Journaled (f a) next ending rest) :
    Journaled (edit >>= f) sheet ending (plan ++ rest) := by
  obtain ⟨⟨hafter, htaken⟩, hdone⟩ := h
  cases hedit : Edit.apply edit sheet with
  | mk outcome next =>
      rw [hedit] at hafter htaken hdone
      cases outcome with
      | error error =>
          have hbind : Edit.apply (edit >>= f) sheet = (.error error, next) := by
            rw [Edit.apply_bind, hedit]
          have hfails : ¬ ∀ write ∈ plan, sheet.takes write := fun hall =>
            nomatch hdone hall
          refine ⟨?_, fun a ha => ?_⟩
          · rw [hbind, journal_append, journal_of_not_takes hfails _ []]
            exact hafter
          · rw [hbind] at ha
            cases ha
      | ok a =>
          have hopen : next.isOpen = sheet.isOpen := hafter.isOpen
          have hall := htaken a rfl
          have hbind := Edit.apply_bind_of_ok hedit f
          obtain ⟨hrest, hrestTaken⟩ := hf a next hedit
          refine ⟨?_, fun b hb => ?_⟩
          · rw [journal_congr hopen] at hrest
            rw [journal_of_takes hall, List.append_nil] at hafter
            rw [hbind, journal_append, journal_of_takes hall]
            exact hafter.trans hrest
          · rw [hbind] at hb
            rw [takes_congr hopen] at hrestTaken
            exact List.forall_mem_append.mpr ⟨hall, hrestTaken b hb⟩

theorem Performs.bind (h : Performs edit sheet plan)
    (hf : ∀ a next, Edit.apply edit sheet = (.ok a, next) → Performs (f a) next rest) :
    Performs (edit >>= f) sheet (plan ++ rest) where
  toJournaled := h.journaled_bind fun a next hedit => (hf a next hedit).toJournaled
  done hall := by
    rw [List.forall_mem_append] at hall
    obtain ⟨a, ha⟩ := h.done hall.1
    have hedit : Edit.apply edit sheet = (.ok a, (Edit.apply edit sheet).2) := Prod.ext ha rfl
    rw [Edit.apply_bind_of_ok hedit]
    refine (hf a _ hedit).done ?_
    rw [takes_congr h.after.isOpen]
    exact hall.2

theorem performs_pure (a : α) (sheet : Sheet) : Performs (pure a : Edit α) sheet [] where
  after := .rfl
  taken := nofun
  done _ := ⟨a, rfl⟩

end Sheet

end ArtifactSearch
