import ArtifactSearch.Workbook.Layout
import ArtifactSearch.Workbook.Title

/-!
# ArtifactSearch.Workbook.Basic

**Workbooks**: sheets in the order in which they were added, and the steps that
write them. A step that fails leaves what it has written by then, and others can
follow.

As long as no sheet was added, a workbook shows one without cells, which the
first sheet takes the place of.
-/

namespace ArtifactSearch

/-- A workbook. -/
structure Workbook where
  /-- The sheets that were added. -/
  added : List Sheet
  deriving Repr, DecidableEq

namespace Workbook

/-- The workbook that no sheet was added to. -/
def empty : Workbook := ⟨[]⟩

/-- The sheets to see. -/
def sheets (book : Workbook) : List Sheet :=
  if book.added.isEmpty then [Sheet.empty Title.default] else book.added

/-- The title that a new sheet gets when it is to be called `title`. Beside
others, a sheet may also be added without a title. -/
def titleFor (book : Workbook) (title : Text) : Except TitleError Text :=
  if book.added.isEmpty then
    if title = Title.default then .ok title else Title.accept [Title.default] title
  else
    Title.accept (book.added.map Sheet.title) (if title.isEmpty then Title.default else title)

/-- A step that writes a workbook. Sheets are numbered from zero; a negative
number counts from behind the last one. -/
inductive Step where
  /-- Add a sheet. -/
  | addSheet (title : Text)
  /-- Write a title block over a number of columns. -/
  | title (sheet : Int) (title subtitle : Value) (columns : Int)
  /-- Write a table from a row on. -/
  | table (sheet : Int) (start : Int) (columns : List ColumnSpec) (data : TableData)
      (freezes : Bool)
  /-- Write a text. -/
  | text (sheet : Int) (row column : Int) (value : Value)
  /-- Write a value as in a table. -/
  | data (sheet : Int) (kind : ColumnKind) (row column : Int) (value : Value)
  /-- Fit the column widths. -/
  | widths (sheet : Int) (limits : Sheet.WidthLimits)
  deriving Repr, DecidableEq

/-- What a step answers. -/
inductive Outcome where
  /-- Nothing. -/
  | done
  /-- The title of the new sheet. -/
  | title (title : Text)
  /-- The row after what was written. -/
  | nextRow (row : Int)
  deriving Repr, DecidableEq

/-- Why a step fails. -/
inductive StepError where
  /-- The title is refused. -/
  | title (error : TitleError)
  /-- There is no sheet of this number. -/
  | noSheet
  /-- The rows of a table make no frame. -/
  | misfit (cause : FrameMisfit)
  /-- The sheet refuses. -/
  | sheet (error : SheetError)
  deriving Repr, DecidableEq

/-- The wording of an error. -/
def StepError.message : StepError → Text
  | .title error => error.message
  | .noSheet => "list index out of range".toList
  | .misfit cause => cause.message
  | .sheet error => error.message

/-- The position of the sheet of a number. -/
def position? (book : Workbook) (number : Int) : Option Nat :=
  let position := if number < 0 then number + book.added.length else number
  if 0 ≤ position && position < book.added.length then some position.toNat else none

/-- The outcome of an edit of one sheet, and the workbook after it. -/
def editSheet {α : Type} (book : Workbook) (number : Int) (edit : Sheet.Edit α)
    (outcome : α → Outcome) : Except StepError Outcome × Workbook :=
  match book.position? number with
  | none => (.error .noSheet, book)
  | some position =>
    match book.added[position]? with
    | none => (.error .noSheet, book)
    | some sheet =>
      let (result, sheet) := edit.apply sheet
      ((result.map outcome).mapError .sheet, ⟨book.added.set position sheet⟩)

/-- The outcome of writing a table, and the workbook after it. -/
def addTable (book : Workbook) (number start : Int) (columns : List ColumnSpec)
    (data : TableData) (freezes : Bool) : Except StepError Outcome × Workbook :=
  match book.position? number, data.rows columns with
  | none, _ => (.error .noSheet, book)
  | some _, .error cause => (.error (.misfit cause), book)
  | some _, .ok rows =>
    book.editSheet number (Sheet.writeTable start columns rows freezes) .nextRow

/-- The outcome of a step, and the workbook after it. -/
def step (book : Workbook) : Step → Except StepError Outcome × Workbook
  | .addSheet title =>
    match book.titleFor title with
    | .ok title => (.ok (.title title), ⟨book.added ++ [Sheet.empty title]⟩)
    | .error error => (.error (.title error), book)
  | .title sheet title subtitle columns =>
    book.editSheet sheet (Sheet.writeTitle title subtitle columns) .nextRow
  | .table sheet start columns data freezes => book.addTable sheet start columns data freezes
  | .text sheet row column value =>
    book.editSheet sheet (Sheet.writeText row column value) (fun _ => .done)
  | .data sheet kind row column value =>
    book.editSheet sheet (Sheet.writeData kind row column value) (fun _ => .done)
  | .widths sheet limits => book.editSheet sheet (Sheet.fitWidths limits) (fun _ => .done)

/-- The outcomes of steps, and the workbook after them. -/
def run (book : Workbook) : List Step → List (Except StepError Outcome) × Workbook
  | [] => ([], book)
  | first :: rest =>
    let (outcome, book) := book.step first
    let (outcomes, book) := book.run rest
    (outcome :: outcomes, book)

/-- The workbook that steps make of one, unless a step fails. -/
def build (book : Workbook) : List Step → Except StepError Workbook
  | [] => .ok book
  | first :: rest =>
    match book.step first with
    | (.ok _, book) => book.build rest
    | (.error error, _) => .error error

end Workbook

end ArtifactSearch
