import ArtifactSearch.Store.Paging
import ArtifactSearch.Text.Count
import ArtifactSearch.Workbook.Basic

/-!
# ArtifactSearch.Workbook.Report

The **workbook of search results**: a sheet with the results in the layout of
the exported text, and a sheet with the field profiles of every index that
occurs in them. The profiles are those of whole indexes, not of the results.
-/

namespace ArtifactSearch.Report

/-- The query as reports show it. -/
def shownQuery (store : Store) : Text :=
  let query := Text.trim Blank.isSpace store.query
  if query.isEmpty then "(all records)".toList else query

/-- The subtitle of the sheet with the results. -/
def subtitle (store : Store) (hits : List (Hit Text)) : Text :=
  let summary := Summary.of hits
  "Query: ".toList ++ shownQuery store ++
    s!"  |  {Text.grouped summary.results} results from {summary.indexes} index(es)".toList

/-- The columns of the sheet with the results, under these headings. The first
one holds the index names. -/
def resultColumns : List Text → List ColumnSpec
  | [] => []
  | first :: rest => ⟨first, .index, first⟩ :: rest.map (fun column => ⟨column, .text, column⟩)

/-- The steps that write the sheet with the results. -/
def resultSteps (store : Store) (hits : List (Hit Text)) : List Workbook.Step :=
  let frame := Export.frame id store.indexes hits
  [.addSheet "Results".toList,
    .title 0 (.text "Forensic Reader — Search Results".toList) (.text (subtitle store hits))
      frame.columns.length,
    .table 0 Sheet.rowAfterTitle (resultColumns frame.columns)
      (.frame frame.columns (frame.rows.map (fun row => row.map Value.text))) true]

/-- The columns of the sheet with the profiles. -/
def profileColumns : List ColumnSpec :=
  [⟨"index".toList, .index, "Index".toList⟩, ⟨"field".toList, .text, "Field".toList⟩,
    ⟨"value".toList, .text, "Value".toList⟩, ⟨"count".toList, .number, "Count".toList⟩]

/-- The records of the sheet with the profiles: one for each reported value, with
the values under the keys of the columns. -/
def profileRecords (store : Store) (hits : List (Hit Text)) : List (Entries Value) :=
  (Export.represented hits).flatMap (fun name =>
    (store.profiles name).flatMap (fun profile =>
      profile.top.map (fun entry =>
        [("index".toList, .text name), ("field".toList, .text profile.column),
          ("value".toList, .text entry.1), ("count".toList, .number entry.2)])))

/-- The steps that write the sheet with the profiles. -/
def profileSteps (store : Store) (hits : List (Hit Text)) : List Workbook.Step :=
  [.addSheet "Fields".toList,
    .title 1 (.text "Field Profiles".toList)
      (.text "Top values per field (empty values excluded)".toList) profileColumns.length,
    .table 1 Sheet.rowAfterTitle profileColumns
      (.records (profileRecords store hits)) true]

/-- The steps that write the workbook of search results. -/
def steps (store : Store) (hits : List (Hit Text)) : List Workbook.Step :=
  resultSteps store hits ++ profileSteps store hits

/-- The workbook of search results, unless they are too many for a sheet. -/
def workbook (store : Store) (hits : List (Hit Text)) : Except Workbook.StepError Workbook :=
  Workbook.empty.build (steps store hits)

end ArtifactSearch.Report
