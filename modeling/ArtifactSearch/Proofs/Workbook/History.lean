import ArtifactSearch.Proofs.Workbook.Plans
import ArtifactSearch.Workbook.Basic
import Mathlib.Data.List.Induction

/-!
# ArtifactSearch.Proofs.Workbook.History

**Every sheet of a workbook holds what its history says.** The history of a sheet
(`Workbook.history`) lists what the steps on a workbook did to it, up to the point where
a step failed. One step changes the sheet of its number and no other (`after_step`), and
so a sheet is an empty one with its whole history replayed (`after_run`). What a cell
holds is then what was written to it last, unless it was covered (`last_written`).
-/

namespace ArtifactSearch.Workbook

open Sheet

/-! ### What steps do -/

/-- The number of the sheet that a step writes to. -/
def target? : Step → Option Int
  | .addSheet _ => none
  | .title sheet .. | .table sheet .. | .text sheet .. | .data sheet .. | .widths sheet _ =>
    some sheet

/-- What a step is to write. -/
def plan : Step → List Write
  | .addSheet _ | .widths _ _ => []
  | .title _ title subtitle _ => titleWrites title subtitle
  | .table _ start columns data _ =>
    match data.rows columns with
    | .ok rows => tableWrites start columns rows
    | .error _ => []
  | .text _ row column value => [⟨row, column, .text, value⟩]
  | .data _ kind row column value => [⟨row, column, kind, value⟩]

/-- What a step merges in the end. -/
def merges : Step → List Act
  | .title _ _ _ columns => titleMerges columns
  | _ => []

/-- The sheet in a position. An empty one stands for one that is not added yet. -/
def sheetAt (book : Workbook) (position : Nat) : Sheet :=
  (book.added[position]?).getD (Sheet.empty Title.default)

/-- What a step does to the sheet in a position. -/
def acts (book : Workbook) (position : Nat) (step : Step) : List Act :=
  if (target? step).bind book.position? = some position then
    (book.sheetAt position).journal (merges step) (plan step)
  else []

/-- What steps do to the sheet in a position, one after the other. -/
def history (book : Workbook) (position : Nat) : List Step → List Act
  | [] => []
  | first :: rest => book.acts position first ++ (book.step first).2.history position rest

variable {book : Workbook} {position : Nat}

theorem position?_lt {number : Int} (h : book.position? number = some position) :
    position < book.added.length := by
  unfold position? at h
  simp only [Option.ite_none_right_eq_some, Bool.and_eq_true, decide_eq_true_eq] at h
  obtain ⟨hinside, hposition⟩ := h
  cases hposition
  omega

theorem eq_of_position? {number : Int} (hnumber : 0 ≤ number)
    (h : book.position? number = some position) : number = position := by
  unfold position? at h
  simp only [Option.ite_none_right_eq_some] at h
  obtain ⟨-, hposition⟩ := h
  rw [if_neg (by omega)] at hposition
  cases hposition
  omega

theorem sheets_getElem? {sheet : Sheet} (h : book.sheets[position]? = some sheet) :
    book.sheetAt position = sheet := by
  unfold sheets at h
  unfold sheetAt
  split at h
  · rename_i hempty
    rw [List.isEmpty_iff.mp hempty]
    cases position with
    | zero => simpa using h
    | succ position => cases h
  · rw [h, Option.getD_some]

theorem sheetAt_set {position other : Nat} (h : position < book.added.length) (sheet : Sheet) :
    (⟨book.added.set position sheet⟩ : Workbook).sheetAt other =
      if other = position then sheet else book.sheetAt other := by
  unfold sheetAt
  rw [List.getElem?_set]
  by_cases hother : other = position
  · rw [if_pos hother.symm, if_pos hother, if_pos h, Option.getD_some]
  · rw [if_neg (Ne.symm hother), if_neg hother]

/-- An edit of a sheet that there is runs on it and puts it back. -/
theorem editSheet_of_position {α : Type} {number : Int} (h : book.position? number = some position)
    (edit : Edit α) (outcome : α → Outcome) :
    book.editSheet number edit outcome =
      (((Edit.apply edit (book.sheetAt position)).1.map outcome).mapError .sheet,
        ⟨book.added.set position (Edit.apply edit (book.sheetAt position)).2⟩) := by
  have hsheet : book.added[position]? = some (book.sheetAt position) := by
    rw [sheetAt, List.getElem?_eq_getElem (position?_lt h), Option.getD_some]
  rw [editSheet, h]
  dsimp only
  rw [hsheet]

theorem after_editSheet {α : Type} (book : Workbook) (position : Nat) {edit : Edit α}
    {ending : List Act} {writes : List Write}
    (h : ∀ sheet, Journaled edit sheet ending writes) (number : Int) (outcome : α → Outcome) :
    After (if book.position? number = some position then
        (book.sheetAt position).journal ending writes else [])
      (book.sheetAt position) ((book.editSheet number edit outcome).2.sheetAt position) := by
  cases hnumber : book.position? number with
  | none =>
      rw [if_neg nofun, editSheet, hnumber]
      exact .rfl
  | some found =>
      rw [editSheet_of_position hnumber, sheetAt_set (position?_lt hnumber)]
      by_cases hfound : position = found
      · subst hfound
        rw [if_pos rfl, if_pos rfl]
        exact (h _).after
      · rw [if_neg fun heq => hfound (Option.some.inj heq).symm, if_neg hfound]
        exact .rfl

theorem after_addTable (number start : Int) (columns : List ColumnSpec) (data : TableData)
    (freezes : Bool) :
    After (book.acts position (.table number start columns data freezes))
      (book.sheetAt position)
      ((book.addTable number start columns data freezes).2.sheetAt position) := by
  have hacts : book.acts position (.table number start columns data freezes) =
      if book.position? number = some position then
        (book.sheetAt position).journal [] (plan (.table number start columns data freezes))
      else [] := rfl
  rw [hacts, plan, addTable]
  cases hrows : data.rows columns with
  | error cause =>
      have hnone : (book.sheetAt position).journal [] [] = [] := rfl
      dsimp only
      rw [hnone, ite_self]
      cases book.position? number <;> exact .rfl
  | ok rows =>
      have hedit := after_editSheet book position
        (journaled_writeTable start columns rows freezes) number .nextRow
      cases hnumber : book.position? number with
      | none =>
          rw [if_neg nofun]
          exact .rfl
      | some found =>
          rw [hnumber] at hedit
          exact hedit

/-- A new sheet is empty, as the one that stood for it. -/
theorem after_addSheet (book : Workbook) (position : Nat) (title : Text) :
    After [] (book.sheetAt position)
      ((⟨book.added ++ [Sheet.empty title]⟩ : Workbook).sheetAt position) := by
  apply After.of_rows
  unfold sheetAt
  rcases Nat.lt_trichotomy position book.added.length with hold | rfl | hbehind
  · rw [List.getElem?_append_left hold]
  · rw [List.getElem?_concat_length, List.getElem?_eq_none (Nat.le_refl _)]
    rfl
  · rw [List.getElem?_eq_none (by simp; omega), List.getElem?_eq_none (by omega)]

/-- A step changes the sheet of its number, as far as its plan is carried out. -/
theorem after_step (book : Workbook) (position : Nat) (step : Step) :
    After (book.acts position step) (book.sheetAt position)
      ((book.step step).2.sheetAt position) := by
  cases step with
  | addSheet title =>
      show After [] _ _
      rw [Workbook.step]
      cases book.titleFor title with
      | ok title => exact after_addSheet book position title
      | error error => exact .rfl
  | title sheet title subtitle columns =>
      exact after_editSheet book position (journaled_writeTitle title subtitle columns) sheet _
  | table sheet start columns data freezes =>
      exact after_addTable sheet start columns data freezes
  | text sheet row column value =>
      exact after_editSheet book position
        (fun found => (performs_writeText row column value found).toJournaled) sheet _
  | data sheet kind row column value =>
      exact after_editSheet book position
        (fun found => (performs_writeData kind row column value found).toJournaled) sheet _
  | widths sheet limits =>
      exact after_editSheet book position
        (fun found => .of_after (after_fitWidths limits found)) sheet _

/-- A sheet is what it was, with its history replayed. -/
theorem after_run (book : Workbook) (position : Nat) (steps : List Step) :
    After (book.history position steps) (book.sheetAt position)
      ((book.run steps).2.sheetAt position) := by
  induction steps generalizing book with
  | nil => exact .rfl
  | cons first rest ih => exact (after_step book position first).trans (ih (book.step first).2)

theorem exists_of_mem_merges {act : Act} {step : Step} (h : act ∈ merges step) :
    ∃ row columns, act = .merged row columns := by
  cases step with
  | title sheet title subtitle columns =>
      rw [merges, titleMerges] at h
      split at h
      · rcases List.mem_pair.mp h with rfl | rfl <;> exact ⟨_, _, rfl⟩
      · cases h
  | _ => cases h

theorem mem_history {act : Act} {steps : List Step} (h : act ∈ book.history position steps) :
    ∃ step ∈ steps, (∃ number, target? step = some number ∧
        ∃ other : Workbook, other.position? number = some position) ∧
      ((∃ write ∈ plan step, act = .written write) ∨
        (∃ write ∈ plan step, write.isRefused ∧ act = .refused write) ∨
        ∃ row columns, act = .merged row columns) := by
  induction steps generalizing book with
  | nil => cases h
  | cons first rest ih =>
      rcases List.mem_append.mp h with hfirst | hrest
      · unfold acts at hfirst
        split at hfirst
        · rename_i htarget
          obtain ⟨number, hnumber, hposition⟩ := Option.bind_eq_some_iff.mp htarget
          exact ⟨first, List.mem_cons_self, ⟨number, hnumber, book, hposition⟩,
            (mem_journal hfirst).imp id (Or.imp id exists_of_mem_merges)⟩
        · cases hfirst
      · obtain ⟨step, hmem, hstep⟩ := ih hrest
        exact ⟨step, List.mem_cons_of_mem _ hmem, hstep⟩

/-! ### Steps that do not fail -/

theorem ok_of_editSheet {α : Type} {number : Int} {edit : Edit α} {outcome : α → Outcome}
    {answer : Outcome} (h : (book.editSheet number edit outcome).1 = .ok answer) :
    ∃ position a, book.position? number = some position ∧
      (Edit.apply edit (book.sheetAt position)).1 = .ok a := by
  cases hnumber : book.position? number with
  | none =>
      rw [editSheet, hnumber] at h
      cases h
  | some position =>
      rw [editSheet_of_position hnumber] at h
      cases hedit : (Edit.apply edit (book.sheetAt position)).1 with
      | error error =>
          rw [hedit] at h
          cases h
      | ok a => exact ⟨position, a, rfl, hedit⟩

/-- A table that does not fail is written as a whole. -/
theorem taken_of_addTable {number start : Int} {columns : List ColumnSpec} {data : TableData}
    {freezes : Bool} {answer : Outcome} {rows : List (List Value)}
    (hrows : data.rows columns = .ok rows)
    (h : (book.addTable number start columns data freezes).1 = .ok answer) :
    ∃ position, ∀ write ∈ tableWrites start columns rows,
      (book.sheetAt position).takes write := by
  rw [addTable, hrows] at h
  cases hnumber : book.position? number with
  | none =>
      rw [hnumber] at h
      cases h
  | some found =>
      rw [hnumber] at h
      obtain ⟨position, a, -, ha⟩ := ok_of_editSheet h
      exact ⟨position, (journaled_writeTable start columns rows freezes _).taken a ha⟩

theorem build_cons_ok {first : Step} {rest : List Step} {last : Workbook}
    (h : book.build (first :: rest) = .ok last) :
    ∃ outcome next, book.step first = (.ok outcome, next) ∧ next.build rest = .ok last := by
  rw [build] at h
  cases hfirst : book.step first with
  | mk outcome next =>
      rw [hfirst] at h
      cases outcome with
      | error error => cases h
      | ok outcome => exact ⟨outcome, next, rfl, h⟩

/-- Steps of which none fails make what running them makes. -/
theorem run_of_build {steps : List Step} {last : Workbook} (h : book.build steps = .ok last) :
    (book.run steps).2 = last := by
  induction steps generalizing book with
  | nil => exact Except.ok.inj h
  | cons first rest ih =>
      obtain ⟨outcome, next, hfirst, hrest⟩ := build_cons_ok h
      have hnext := ih hrest
      rw [← hnext, run, hfirst]

/-! ### What was written last -/

/-- The value written last to the cell in a row and a column. -/
def lastWrite (row column : Nat) (acts : List Act) : Option Write :=
  (acts.filterMap fun
    | .written write => if write.IsAt row column then some write else none
    | _ => none).getLast?

variable {row column : Nat} {history : List Act} {cell : Cell}

theorem lastWrite_concat_written {write : Write} (h : write.IsAt row column) :
    lastWrite row column (history ++ [.written write]) = some write := by
  simp [lastWrite, h]

theorem lastWrite_concat_elsewhere {write : Write} (h : ¬ write.IsAt row column) :
    lastWrite row column (history ++ [.written write]) = lastWrite row column history := by
  simp [lastWrite, h]

theorem lastWrite_concat_refused (write : Write) :
    lastWrite row column (history ++ [.refused write]) = lastWrite row column history := by
  simp [lastWrite]

theorem lastWrite_concat_merged (r columns : Nat) :
    lastWrite row column (history ++ [.merged r columns]) = lastWrite row column history := by
  simp [lastWrite]

/-- What a cell shows of its history: nothing, or the value written last, which is marked as
text instead if something was refused. -/
inductive Shows (row column : Nat) (history : List Act) (cell : Cell) : Prop where
  | nothing (value : cell.value = .nothing) (kind : cell.kind = .number ∨ cell.kind = .text)
  | last (write : Write) (last : lastWrite row column history = some write)
    (value : cell.value = write.content.1)
    (kind : cell.kind = write.content.2 ∨
      cell.kind = .text ∧ ∃ other, Act.refused other ∈ history)

theorem of_lastWrite {write : Write} (h : lastWrite row column history = some write) :
    .written write ∈ history ∧ write.IsAt row column := by
  obtain ⟨act, hact, hwrite⟩ := List.mem_filterMap.mp (List.mem_of_getLast? h)
  cases act with
  | written other =>
      dsimp only at hwrite
      split at hwrite
      · rename_i hat
        cases hwrite
        exact ⟨hact, hat⟩
      · cases hwrite
  | refused other => cases hwrite
  | merged row columns => cases hwrite

theorem Shows.concat {act : Act} (h : Shows row column history cell)
    (hact : lastWrite row column (history ++ [act]) = lastWrite row column history) :
    Shows row column (history ++ [act]) cell := by
  cases h with
  | nothing value kind => exact .nothing value kind
  | last write last value kind =>
      refine .last write (hact.trans last) value (kind.imp id ?_)
      rintro ⟨hkind, other, hmem⟩
      exact ⟨hkind, other, List.mem_append_left _ hmem⟩

theorem Shows.mark {write : Write} (h : Shows row column history cell) :
    Shows row column (history ++ [.refused write]) { cell with kind := .text } := by
  cases h with
  | nothing value kind => exact .nothing value (.inr rfl)
  | last other last value kind =>
      exact .last other ((lastWrite_concat_refused write).trans last) value
        (.inr ⟨rfl, write, List.mem_append_right _ List.mem_cons_self⟩)

/-- One act keeps a cell in step with its history. -/
theorem Shows.on (h : Shows row column history cell) (act : Act) :
    Shows row column (history ++ [act]) (Act.on row column cell act) := by
  cases act with
  | written write =>
      rw [Act.on]
      split
      · rename_i hat
        exact .last write (lastWrite_concat_written hat) rfl (.inl rfl)
      · rename_i hat
        exact h.concat (lastWrite_concat_elsewhere hat)
  | refused write =>
      rw [Act.on]
      split
      · exact h.mark
      · exact h.concat (lastWrite_concat_refused write)
  | merged r columns =>
      rw [Act.on]
      split
      · exact .nothing rfl (.inl rfl)
      · exact h.concat (lastWrite_concat_merged r columns)

theorem shows_replay (row column : Nat) (history : List Act) :
    Shows row column history (history.foldl (Act.on row column) .blank) := by
  induction history using List.reverseRecOn with
  | nil => exact .nothing rfl (.inl rfl)
  | append_singleton history act ih =>
      rw [List.foldl_append]
      exact ih.on act

theorem Shows.of_bare (h : Shows row column history cell.bare) : Shows row column history cell := by
  cases h with
  | nothing value kind => exact .nothing value kind
  | last write last value kind => exact .last write last value kind

/-- Looks apart, every cell of a workbook is its history, replayed on a blank one. -/
theorem bare_run (steps : List Step) (position : Nat) (hrow : 0 < row) (hcolumn : 0 < column) :
    (((empty.run steps).2.sheetAt position).cellAt row column).bare
      = (empty.history position steps).foldl (Act.on row column) .blank :=
  after_run empty position steps row column hrow hcolumn

theorem shows_run (steps : List Step) (position : Nat) (hrow : 0 < row) (hcolumn : 0 < column) :
    Shows row column (empty.history position steps)
      (((empty.run steps).2.sheetAt position).cellAt row column) := by
  apply Shows.of_bare
  rw [bare_run steps position hrow hcolumn]
  exact shows_replay row column _

end ArtifactSearch.Workbook
