import ArtifactSearch.Text.Lower
import ArtifactSearch.Workbook.Report

/-!
# ArtifactSearch.CommandLine.Listing

The **listings** that commands print of a store: its indexes, a page of
results, field profiles. Long values are cut.
-/

namespace ArtifactSearch.CommandLine.Listing

/-- The largest width of a value. -/
def valueWidth : Nat := 60

/-- A value cut to the largest width. -/
def clip (value : Text) : Text :=
  if value.length ≤ valueWidth then value else value.take (valueWidth - 3) ++ "...".toList

/-- A row of the listing of indexes. -/
def indexRow (number : Nat) (index : Index) : String :=
  Text.padRight 4 (toString number) ++ Text.padRight 28 (String.ofList (index.name.take 26))
    ++ Text.padLeft 10 (Text.grouped index.rowCount)
    ++ Text.padLeft 7 (toString index.columns.length)
    ++ s!"  {String.ofList index.fileName}\n"

/-- The heading of the listing of indexes. -/
def indexHeading : String :=
  Text.padRight 4 "#" ++ Text.padRight 28 "Index" ++ Text.padLeft 10 "Rows"
    ++ Text.padLeft 7 "Cols" ++ "  Source\n"

/-- The listing of the indexes. -/
def indexes (store : Store) : String :=
  if store.indexes.isEmpty then "\n  No indexes loaded.\n\n"
  else
    let rows := (store.indexes.values.zipIdx 1).map (fun entry => indexRow entry.2 entry.1)
    s!"\nINDEXES ({store.indexes.length}):\n\n" ++ indexHeading ++ String.join rows ++ "\n"

/-- A result on one line: its index and its values, without the empty ones. -/
def resultRow (number : Int) (hit : Hit Text) : String :=
  let values := Text.join ", ".toList
    ((hit.row.filter (fun entry => !entry.2.isEmpty)).map
      (fun entry => entry.1 ++ '=' :: clip entry.2))
  Text.padRight 6 (toString number)
    ++ s!"[{String.ofList hit.index}] {String.ofList values}\n"

/-- The listing of the page of results that is shown. -/
def results (store : Store) : String :=
  let hits := store.results
  let summary := Summary.of hits
  let page := store.shownPage hits.length
  let noun := if summary.indexes = 1 then "index" else "indexes"
  let rows := ((store.pageOf page hits).zipIdx).map
    (fun entry => resultRow (store.firstShown hits.length + entry.2) entry.1)
  s!"\nQuery: {String.ofList (Report.shownQuery store)}\n"
    ++ s!"  {Text.grouped summary.results} results from {summary.indexes} {noun}"
    ++ s!"  |  Page {page} of {Paging.pageCount store.pageSize hits.length}\n\n"
    ++ (if hits.isEmpty then "  No results found\n\n" else String.join rows ++ "\n")

/-- The profile of one column, with at most `top` values. -/
def profile (top : Int) (profile : Profile) : String :=
  s!"  {String.ofList profile.column}\n"
    ++ (if profile.top.isEmpty then "      (no values)\n" else "")
    ++ String.join ((Profile.head top profile.top).map (fun entry =>
      "      " ++ Text.padLeft 8 (Text.grouped entry.2) ++ s!"  {String.ofList (clip entry.1)}\n"))

/-- The profiles of one index. -/
def indexProfiles (store : Store) (top : Int) (entry : Text × Index) : String :=
  s!"\n{String.ofList entry.1} ({Text.grouped entry.2.rowCount} rows)\n"
    ++ "".pushn '-' 70 ++ "\n"
    ++ String.join ((store.profiles entry.1).map (profile top))

/-- The profiles of the index of a name, in any casing, or of all indexes if the
name is empty. -/
def profiles (store : Store) (name : Text) (top : Int) : String :=
  if name.isEmpty then String.join (store.indexes.map (indexProfiles store top)) ++ "\n"
  else match store.indexes.find? (fun entry => Text.lower entry.1 = Text.lower name) with
    | some entry => indexProfiles store top entry ++ "\n"
    | none => "  Index not found: '" ++ String.ofList name ++ "'\n"

end ArtifactSearch.CommandLine.Listing
