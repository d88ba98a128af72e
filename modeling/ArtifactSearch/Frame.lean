import ArtifactSearch.Text.Basic

/-!
# ArtifactSearch.Frame

**Frames**: cells of any type `α` in rows under column names. Names may repeat.

`ofRows` makes a frame of rows that need not be of one length. The longest one
must fit the columns; in the others, cells are missing at the end.
-/

namespace ArtifactSearch

/-- A table of cells. -/
structure Frame (α : Type) where
  /-- The column names. -/
  columns : List Text
  /-- The rows, each with one cell per column. -/
  rows : List (List α)
  deriving Repr, DecidableEq

/-- Why rows make no frame: the longest one does not have one cell per column. -/
structure FrameMisfit where
  /-- The number of columns. -/
  columns : Nat
  /-- The number of cells in the longest row. -/
  cells : Nat
  deriving Repr, DecidableEq

/-- The wording of a misfit. -/
def FrameMisfit.message (misfit : FrameMisfit) : Text :=
  s!"{misfit.columns} columns passed, passed data had {misfit.cells} columns".toList

namespace Frame

variable {α : Type}

/-- The frame of rows under column names, with `blank` for each missing cell.
Where there are no columns, there are no rows either. -/
def ofRows (blank : α) (columns : List Text) (rows : List (List α)) :
    Except FrameMisfit (Frame α) :=
  let cells := (rows.map List.length).foldl max 0
  if rows.isEmpty || cells = columns.length then
    .ok ⟨columns, if columns.isEmpty then [] else rows.map (List.rightpad cells blank)⟩
  else .error ⟨columns.length, cells⟩

/-! ### The shape of a frame of rows -/

/-- The largest number is within a bound just when all numbers are. -/
theorem largest_le_iff {bound start : Nat} {numbers : List Nat} :
    numbers.foldl max start ≤ bound ↔ start ≤ bound ∧ ∀ n ∈ numbers, n ≤ bound := by
  induction numbers generalizing start with
  | nil => simp
  | cons first rest ih =>
    rw [List.foldl_cons, ih, Nat.max_le, List.forall_mem_cons, and_assoc]

/-- Every row of a frame of rows has one cell per column. -/
theorem length_of_mem_ofRows {blank : α} {columns : List Text} {rows : List (List α)}
    {made : Frame α} (success : ofRows blank columns rows = .ok made) :
    ∀ row ∈ made.rows, row.length = columns.length := by
  intro row member
  unfold ofRows at success
  by_cases fits : (rows.isEmpty || (rows.map List.length).foldl max 0 = columns.length) = true
  · rw [if_pos fits] at success
    cases success
    by_cases bare : columns.isEmpty = true
    · simp [bare] at member
    · rw [if_neg bare] at member
      obtain ⟨cells, given, rfl⟩ := List.mem_map.mp member
      have short : cells.length ≤ (rows.map List.length).foldl max 0 :=
        (largest_le_iff.mp (Nat.le_refl _)).2 _ (List.mem_map_of_mem given)
      have occupied : rows.isEmpty = false := by
        cases rows with
        | nil => simp at given
        | cons _ _ => rfl
      simp only [occupied, Bool.false_or, decide_eq_true_eq] at fits
      rw [List.length_rightpad]
      omega
  · rw [if_neg fits] at success
    cases success

end Frame

end ArtifactSearch
