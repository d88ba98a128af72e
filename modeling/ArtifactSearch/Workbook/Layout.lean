import ArtifactSearch.Entries
import ArtifactSearch.Frame
import ArtifactSearch.Number.Double
import ArtifactSearch.Workbook.Sheet

/-!
# ArtifactSearch.Workbook.Layout

What is **written into sheets**: single cells, title blocks and tables.

* Text is written without control characters and cut to `maxText`; it is never
  marked as anything but text, whatever it looks like (`writeText`).
* Only a column of numbers takes values as they are: there a text may be marked
  as a formula or an error code (`kindOf`).
* Every second row of a table has a grey background, except in columns of index
  names, which have their own.
-/

namespace ArtifactSearch

/-- What a column of a table holds. -/
inductive ColumnKind where
  /-- Any text. -/
  | text
  /-- Names of indexes. -/
  | index
  /-- Numbers. -/
  | number
  deriving Repr, DecidableEq

/-- A column of a table. -/
structure ColumnSpec where
  /-- The key that records have its values under. -/
  key : Text
  /-- What it holds. -/
  kind : ColumnKind
  /-- Its heading. -/
  label : Text
  deriving Repr, DecidableEq

/-- The look of a cell of data once its value is written, over what it looked
like before. -/
def Style.data (kind : ColumnKind) (row : Int) (style : Style) : Style :=
  let style :=
    match kind with
    | .text => { style with font := .data, alignment := some .left }
    | .index =>
      { style with font := .index, alignment := some .left, fill := some Colour.lightSlate }
    | .number => { style with font := .data, alignment := some .right, format := .grouped }
  if kind ≠ .index && row % 2 = 0 then { style with fill := some Colour.alternate } else style

/-- The data of a table. -/
inductive TableData where
  /-- Records, with their values under the keys of the columns. -/
  | records (records : List (Entries Value))
  /-- Rows of a frame with its own column names. Their values are matched with the
  columns of the table by position. -/
  | frame (columns : List Text) (rows : List (List Value))
  deriving Repr, DecidableEq

namespace TableData

/-- The values of a record under the keys of columns; a missing one is the empty
text. -/
def valuesOf (columns : List ColumnSpec) (record : Entries Value) : List Value :=
  columns.map (fun column => (record.get? column.key).getD (.text []))

/-- The rows of a table with the given columns. -/
def rows (columns : List ColumnSpec) : TableData → Except FrameMisfit (List (List Value))
  | .records entries => .ok (entries.map (valuesOf columns))
  | .frame names cells => (Frame.ofRows .nothing names cells).map Frame.rows

end TableData

namespace Sheet

/-- The largest number of characters in a cell. -/
def maxText : Nat := 32767

/-- The control characters that no cell may hold: all but tabs and line
ends. -/
def isControl (c : Char) : Bool := c.toNat < 32 && c ≠ '\t' && c ≠ '\n' && c ≠ '\r'

/-- The text of a value as a cell holds it. -/
def plainText (value : Value) : Text := (value.toText.filter (fun c => !isControl c)).take maxText

/-- The texts that are error codes. -/
def errorCodes : List Text :=
  ["#NULL!", "#DIV/0!", "#VALUE!", "#REF!", "#NAME?", "#NUM!", "#N/A"].map String.toList

/-- What a value is that is written as it is. -/
def kindOf : Value → CellKind
  | .nothing | .number _ => .number
  | .truth _ => .truth
  | .text s =>
    if s.head? = some '=' && 1 < s.length then .formula
    else if errorCodes.contains s then .errorCode
    else .text

/-- The writing of a value as text. -/
def writeText (row column : Int) (value : Value) : Edit Unit :=
  setValue row column (.text (plainText value)) .text

/-- The writing of a value as it is. Texts are cut, but one with a control
character is not written: the cell keeps its value and is marked as text. -/
def writeTyped (row column : Int) (value : Value) : Edit Unit := do
  match value with
  | .text s =>
    let s := s.take maxText
    claim row column
    if s.any isControl then
      change row column (fun cell => { cell with kind := .text })
      throw (.controlCharacter s)
    setValue row column (.text s) (kindOf (.text s))
  | value => setValue row column value (kindOf value)

/-- The writing of one value of a table. Its border stays even if the value
fails. -/
def writeData (kind : ColumnKind) (row column : Int) (value : Value) : Edit Unit := do
  restyle row column (fun style => { style with border := .data })
  match kind with
  | .number => writeTyped row column value
  | _ => writeText row column value
  restyle row column (Style.data kind row)

/-- The writing of texts into a row, from a column on. -/
def writeTexts (row column : Int) : List Text → Edit Unit
  | [] => pure ()
  | s :: rest => do
    writeText row column (.text s)
    writeTexts row (column + 1) rest

/-- The writing of values of a table into a row, from a column on. -/
def writeValues (row column : Int) : List (ColumnKind × Value) → Edit Unit
  | [] => pure ()
  | (kind, value) :: rest => do
    writeData kind row column value
    writeValues row (column + 1) rest

/-- The writing of the rows of a table, from a row on. Values are matched with
columns by position; what has no partner is left out. -/
def writeRows (kinds : List ColumnKind) (row : Int) : List (List Value) → Edit Unit
  | [] => pure ()
  | values :: rest => do
    writeValues row 1 (kinds.zip values)
    writeRows kinds (row + 1) rest

/-- The look of headings for the cells of a row, from a column on. -/
def styleHeader (row column : Int) : (columns : Nat) → Edit Unit
  | 0 => pure ()
  | columns + 1 => do
    restyle row column Style.header
    styleHeader row (column + 1) columns

/-- The bounds of column widths that are set. -/
structure WidthLimits where
  /-- The least width. -/
  least : Int
  /-- The largest width, which wins over the least. -/
  most : Int
  deriving Repr, DecidableEq

/-- The bounds unless others are asked for. -/
def WidthLimits.default : WidthLimits := ⟨10, 60⟩

/-- The width of a column with a longest text of so many characters, as a double.
There is none beyond the largest one. -/
def WidthLimits.width? (limits : WidthLimits) (length : Nat) : Option Int :=
  Double.nearestInteger? (min (max (length + 2 : Int) limits.least) limits.most)

/-- The larger number at every position of two lists. -/
def maxima : List Nat → List Nat → List Nat
  | [], others => others
  | numbers, [] => numbers
  | n :: numbers, m :: others => max n m :: maxima numbers others

/-- The length of the longest text in every column. -/
def longest (sheet : Sheet) : List Nat :=
  (sheet.rows.map (fun cells => cells.map (fun cell => cell.value.toText.length))).foldl maxima []

/-- The width that a column has when none could be set. -/
def standardWidth : Int := 13

/-- The fitting of the column widths, as far as there are letters for the columns.
Only limits are ever too large for a width, and then the first column fails
already. -/
def fitWidths (limits : WidthLimits) : Edit Unit := do
  let lengths := (← get).longest
  match (lengths.take lastColumn).mapM limits.width? with
  | some widths =>
    modify (fun sheet => { sheet with widths := widths })
    if lastColumn < lengths.length then throw (.column (lastColumn + 1))
  | none =>
    modify (fun sheet =>
      { sheet with widths := if sheet.widths.isEmpty then [standardWidth] else sheet.widths })
    throw .measure

/-- The freezing of all rows above one, and of the first column. The number of
rows is a double. -/
def freeze (row : Int) : Edit Unit := do
  if row < 0 then throw .frozenRow
  modify (fun sheet => { sheet with frozen := some (row, 2) })
  if (Double.nearestInteger? (row - 1)).isNone then throw .measure

/-- The border of the leftmost one of cells to merge: its own, and at the right
and the bottom that of the last one where it has none. -/
def mergedBorder (first last : Border) : Border :=
  first.orElse { Border.none with right := last.right, bottom := last.bottom }

/-- The border of a covered cell: the upper and lower line of the merged cell,
and its right line for the last one. -/
def coveredBorder (merged : Border) (isLast : Bool) : Border :=
  { Border.none with
    top := merged.top, bottom := merged.bottom, right := if isLast then merged.right else none }

/-- A fresh covered cell. -/
def coveredCell (merged : Border) (isLast : Bool) : Cell :=
  { Cell.hidden with style := { Style.plain with border := coveredBorder merged isLast } }

/-- The cells of a row with the first `columns` of them merged. The leftmost one
stays, the others are covered. -/
def mergedCells (columns : Nat) (cells : List Cell) : List Cell :=
  match cells.rightpad columns .blank with
  | [] => []
  | first :: rest =>
    let last := ((first :: rest)[columns - 1]?).getD first
    let border := mergedBorder first.style.border last.style.border
    { first with style := { first.style with border := border } }
      :: (List.replicate (columns - 2) (coveredCell border false) ++ [coveredCell border true])
      ++ rest.drop (columns - 1)

/-- The sheet with the first `columns` cells of a row merged. A range within one
that is merged already is not listed again. -/
def merge (row columns : Nat) (sheet : Sheet) : Sheet :=
  { sheet with
    rows := (sheet.rows.rightpad row []).modify (row - 1) (mergedCells columns)
    merged :=
      if sheet.merged.any (fun other => other.row = row && columns ≤ other.columns) then
        sheet.merged
      else sheet.merged ++ [⟨row, columns⟩] }

/-- The row after a title block. -/
def rowAfterTitle : Int := 4

/-- The writing of a title and a subtitle, each over a number of columns, and
the row after the block. -/
def writeTitle (title subtitle : Value) (columns : Int) : Edit Int := do
  writeText 1 1 title
  restyle 1 1 (fun style => { style with font := .title })
  writeText 2 1 subtitle
  restyle 2 1 (fun style => { style with font := .subtitle })
  if 1 < columns then
    if lastColumn < columns then throw .mergedColumns
    modify (fun sheet => (sheet.merge 1 columns.toNat).merge 2 columns.toNat)
  return rowAfterTitle

/-- The writing of a table with its headings in row `start`, and the row after
it. -/
def writeTable (start : Int) (columns : List ColumnSpec) (rows : List (List Value))
    (freezes : Bool) : Edit Int := do
  writeTexts start 1 (columns.map ColumnSpec.label)
  styleHeader start 1 columns.length
  writeRows (columns.map ColumnSpec.kind) (start + 1) rows
  fitWidths .default
  if freezes then freeze (start + 1)
  return start + 1 + rows.length

end Sheet

end ArtifactSearch
