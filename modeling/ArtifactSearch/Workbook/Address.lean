import ArtifactSearch.Workbook.Sheet

/-!
# ArtifactSearch.Workbook.Address

The **names of cells and ranges**: letters for the column, then the number of
the row. Columns are counted in bijective base 26, so after Z comes AA.
-/

namespace ArtifactSearch.Address

/-- The letter at a position of the alphabet, from zero. -/
def letter (position : Nat) : Char := Char.ofNat ('A'.toNat + position)

/-- The letters of a column, put before `behind`. Every letter takes the column
down to less than a twenty-sixth. -/
def lettersBefore (behind : Text) (column : Nat) : Text :=
  if h : column = 0 then behind
  else lettersBefore (letter ((column - 1) % 26) :: behind) ((column - 1) / 26)
termination_by column
decreasing_by omega

/-- The letters of a column, counted from one. -/
def letters (column : Nat) : Text := lettersBefore [] column

/-- The name of a cell. -/
def cell (row : Int) (column : Nat) : Text := letters column ++ Text.ofInt row

/-- The name of merged cells: the first and the last of them. -/
def range (merged : MergedRow) : Text := cell merged.row 1 ++ ':' :: cell merged.row merged.columns

example : letters 1 = ['A'] ∧ letters 26 = ['Z'] ∧ letters 27 = "AA".toList ∧
    letters 703 = "AAA".toList := by decide +kernel

end ArtifactSearch.Address
