import ArtifactSearch.Csv.Escape
import ArtifactSearch.Frame
import ArtifactSearch.Query

/-!
# ArtifactSearch.Export

**Exports of search results**: a column with the index name of each result,
then the data columns. If all results come from one loaded index, the data
columns are its columns; otherwise they are the columns that the results have,
in the order in which they first occur.

Cells are of any type `α`; a result without a column has the cell `blank` there.
-/

namespace ArtifactSearch

namespace Export

variable {α : Type}

/-- The name of the column with the index names. -/
def indexColumn : Text := "_index".toList

/-- The indexes that occur in results, in order of first occurrence. -/
def represented (hits : List (Hit α)) : List Text := (hits.map Hit.index).eraseDups

/-- The columns that occur in results, in order of first occurrence. -/
def union (hits : List (Hit α)) : List Text := (hits.flatMap (fun hit => hit.row.keys)).eraseDups

/-- The data columns of an export. -/
def columns (indexes : IndexMap) (hits : List (Hit α)) : List Text :=
  match represented hits with
  | [name] =>
    match indexes.get? name with
    | some index => index.columns
    | none => union hits
  | _ => union hits

/-- The frame of results: the index column, then the data columns. -/
def frame (ofText : Text → α) (indexes : IndexMap) (hits : List (Hit α)) : Frame α :=
  let data := columns indexes hits
  ⟨indexColumn :: data,
    hits.map (fun hit =>
      ofText hit.index :: data.map (fun column => (hit.row.get? column).getD (ofText [])))⟩

/-- A frame as delimited text: the header line, then one line per row. -/
def csvOf (toText : α → Text) (f : Frame α) : Text :=
  Text.join ['\n'] (Csv.row f.columns :: f.rows.map (fun row => Csv.row (row.map toText)))

/-- Search results as delimited text. -/
def csv (indexes : IndexMap) (hits : List (Hit Text)) : Text := csvOf id (frame id indexes hits)

end Export

end ArtifactSearch
