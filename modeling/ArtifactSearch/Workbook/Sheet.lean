import ArtifactSearch.Text.Basic
import ArtifactSearch.Text.Integer
import ArtifactSearch.Workbook.Style

/-!
# ArtifactSearch.Workbook.Sheet

**Sheets of cells.** A sheet is the rows from the top, each with the cells from
the left that were used so far; cells in between are blank.

* A cell holds a value and is marked with what it holds. Text may be marked as
  text, so a text that looks like a formula is no formula.
* Merging cells of a row leaves the leftmost one; the others become covered.
  A covered cell still has a look but takes no value.
* An edit that fails keeps what it has done by then (`Edit`).

`cellAt` is the view of a sheet; `cellAt_update` tells what a change of one cell
does to it.
-/

namespace ArtifactSearch

/-- A value to write: a text, an integer, a truth value or nothing. -/
inductive Value where
  /-- A text. -/
  | text (s : Text)
  /-- An integer. -/
  | number (n : Int)
  /-- A truth value. -/
  | truth (b : Bool)
  /-- Nothing. -/
  | nothing
  deriving Repr, DecidableEq

/-- The text of an integer. -/
def Text.ofInt (n : Int) : Text :=
  if n < 0 then '-' :: Nat.toDigits 10 n.natAbs else Nat.toDigits 10 n.natAbs

/-- The text of a truth value. -/
def Text.ofTruth (b : Bool) : Text := if b then "True".toList else "False".toList

/-- The text of a value. -/
def Value.toText : Value → Text
  | .text s => s
  | .number n => Text.ofInt n
  | .truth b => Text.ofTruth b
  | .nothing => []

/-- What a cell is marked to hold. -/
inductive CellKind where
  /-- A number, or nothing. -/
  | number
  /-- A text. -/
  | text
  /-- A truth value. -/
  | truth
  /-- A formula. -/
  | formula
  /-- The code of an error. -/
  | errorCode
  deriving Repr, DecidableEq

/-- A cell. -/
structure Cell where
  /-- What it holds. -/
  value : Value
  /-- What it is marked to hold. -/
  kind : CellKind
  /-- What it looks like. -/
  style : Style
  /-- Whether it is covered by a merged cell. -/
  covered : Bool
  deriving Repr, DecidableEq

namespace Cell

/-- A cell that was never used. -/
def blank : Cell := ⟨.nothing, .number, .plain, false⟩

/-- A cell that has just been covered. -/
def hidden : Cell := { blank with covered := true }

/-- Whether there is nothing to see in the cell. -/
def isInvisible (cell : Cell) : Bool :=
  cell.covered || (cell.value = .nothing && cell.style = .plain)

end Cell

/-- Cells of one row merged into one: the row, and the number of cells from the
left. -/
structure MergedRow where
  /-- The row, from one. -/
  row : Nat
  /-- The number of cells. -/
  columns : Nat
  deriving Repr, DecidableEq

/-- A sheet. -/
structure Sheet where
  /-- The title. -/
  title : Text
  /-- The rows from the top, each with its cells from the left. -/
  rows : List (List Cell)
  /-- What has been merged. -/
  merged : List MergedRow
  /-- The column widths that were set, from the left. -/
  widths : List Int
  /-- The row and the column of the first cell that scrolls, if some do not. -/
  frozen : Option (Int × Nat)
  deriving Repr, DecidableEq

/-- Why an edit of a sheet fails. -/
inductive SheetError where
  /-- A row or column below one. -/
  | position
  /-- A row behind the last one there can be. -/
  | row (n : Int)
  /-- A column behind the last one there are letters for. -/
  | column (n : Nat)
  /-- More columns to merge than there are letters for. -/
  | mergedColumns
  /-- A row below zero for the first one that scrolls. -/
  | frozenRow
  /-- A measure beyond the largest double. -/
  | measure
  /-- A value for a covered cell. -/
  | covered
  /-- A text with control characters, where they are not removed. -/
  | controlCharacter (s : Text)
  deriving Repr, DecidableEq

namespace Sheet

/-- The last row there can be. -/
def lastRow : Nat := 1048576

/-- The last column there are letters for: at most three. -/
def lastColumn : Nat := 18278

/-- A sheet without cells. -/
def empty (title : Text) : Sheet := ⟨title, [], [], [], none⟩

end Sheet

/-- The wording of an error. -/
def SheetError.message : SheetError → Text
  | .position => "Row or column values must be at least 1".toList
  | .row n =>
    s!"Row numbers must be between 1 and {Sheet.lastRow}. Row number supplied was {n}".toList
  | .column n => s!"Invalid column index {n}".toList
  | .mergedColumns => s!"Max value is {Sheet.lastColumn}".toList
  | .frozenRow => "'B-' is not a valid column name. Column names are from A to ZZZ".toList
  | .measure => "a measure is too large".toList
  | .covered => "a covered cell takes no value".toList
  | .controlCharacter s => s ++ " cannot be used in worksheets.".toList

namespace Sheet

/-- The cell in a row and a column, both from one. -/
def cellAt (sheet : Sheet) (row column : Nat) : Cell :=
  (((sheet.rows[row - 1]?).getD [])[column - 1]?).getD .blank

/-- The sheet with one cell changed, its row and column counted from one. -/
def update (sheet : Sheet) (row column : Nat) (f : Cell → Cell) : Sheet :=
  { sheet with
    rows := (sheet.rows.rightpad row []).modify (row - 1)
      (fun cells => (cells.rightpad column .blank).modify (column - 1) f) }

/-- The number of columns up to the last used cell. -/
def columnCount (sheet : Sheet) : Nat := (sheet.rows.map List.length).foldl max 0

/-- Everything from the first row and column to the last ones used; none stands
for a cell with nothing to see. A sheet without cells shows one. -/
def visible (sheet : Sheet) : List (List (Option Cell)) :=
  let columns := sheet.columnCount
  if sheet.rows.isEmpty then [[none]]
  else sheet.rows.map (fun cells =>
    (cells.map (fun cell => if cell.isInvisible then none else some cell)).rightpad columns none)

/-- The different looks of the cells with something to see, row by row. -/
def styles (sheet : Sheet) : List Style :=
  ((sheet.visible.flatMap (fun cells => cells.filterMap id)).map Cell.style).eraseDups

/-- An edit of a sheet. If it fails, what it has done by then stays. -/
abbrev Edit := ExceptT SheetError (StateM Sheet)

/-- The outcome of an edit and the sheet after it. -/
def Edit.apply {α : Type} (edit : Edit α) (sheet : Sheet) : Except SheetError α × Sheet :=
  edit.run.run sheet

/-- A change of the cell in a row and a column. -/
def change (row column : Int) (f : Cell → Cell) : Edit Unit := do
  if row < 1 || column < 1 then throw .position
  if lastRow < row then throw (.row row)
  modify (fun sheet => sheet.update row.toNat column.toNat f)

/-- A change of the look of a cell. -/
def restyle (row column : Int) (f : Style → Style) : Edit Unit :=
  change row column (fun cell => { cell with style := f cell.style })

/-- The use of a cell for a value, which a covered one does not take. -/
def claim (row column : Int) : Edit Unit := do
  change row column id
  if ((← get).cellAt row.toNat column.toNat).covered then throw .covered

/-- A new value for a cell, and what the cell is marked to hold with it. -/
def setValue (row column : Int) (value : Value) (kind : CellKind) : Edit Unit := do
  claim row column
  change row column (fun cell => { cell with value := value, kind := kind })

/-! ### What the view sees of a change -/

theorem getD_rightpad {α : Type} (length : Nat) (filler : α) (xs : List α) (i : Nat) :
    ((xs.rightpad length filler)[i]?).getD filler = (xs[i]?).getD filler := by
  unfold List.rightpad
  rw [List.getElem?_append]
  split
  · rfl
  · rw [List.getElem?_replicate, List.getElem?_eq_none (by omega)]
    split <;> rfl

theorem getD_modify_rightpad {α : Type} (position : Nat) (filler : α) (f : α → α) (xs : List α)
    (i : Nat) :
    (((xs.rightpad (position + 1) filler).modify position f)[i]?).getD filler =
      if i = position then f ((xs[position]?).getD filler) else (xs[i]?).getD filler := by
  rw [List.getElem?_modify]
  by_cases h : i = position
  · subst h
    have used : i < (xs.rightpad (i + 1) filler).length := by simp [List.rightpad]; omega
    rw [if_pos rfl, ← getD_rightpad (i + 1), List.getElem?_eq_getElem used]
    simp
  · rw [if_neg h, ← getD_rightpad (position + 1) filler xs i]
    simp [Ne.symm h]

theorem cellAt_update (sheet : Sheet) (row column : Nat) (f : Cell → Cell) (r c : Nat) :
    (sheet.update (row + 1) (column + 1) f).cellAt (r + 1) (c + 1) =
      if r = row ∧ c = column then f (sheet.cellAt (row + 1) (column + 1))
      else sheet.cellAt (r + 1) (c + 1) := by
  simp only [cellAt, update, Nat.add_sub_cancel, getD_modify_rightpad]
  by_cases hr : r = row
  · subst hr
    rw [if_pos rfl, getD_modify_rightpad]
    simp
  · simp [hr]

end Sheet

end ArtifactSearch
