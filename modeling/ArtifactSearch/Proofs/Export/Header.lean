import ArtifactSearch.Proofs.Workbook.Mirror

/-!
# ArtifactSearch.Proofs.Export.Header

**Which exports have a header without repetitions.** The data columns of an export are
distinct (`Export.nodup_columns`), so the header repeats a name just when one of them is
called like the column with the index names. Such a column comes from an index that has a
result and has it among its own columns (`Export.mem_columns_iff`): an earlier export, once
it is loaded as a file, is one.

The header is the same wherever it is shown. It is read from the first line of the exported
text, and the sheet of the results has it in its fourth row, each name as far as a cell can
hold it (`Report.visible_header`). A reader of tables keeps one column of each name
(`Export.columns_parse_csv`), so a repeated one is lost.
-/

namespace ArtifactSearch

namespace Export

variable {indexes : IndexMap} {hits : List (Hit Text)}

/-- The names over the columns of an export. -/
def header (indexes : IndexMap) (hits : List (Hit Text)) : List Text :=
  (frame id indexes hits).columns

section Belong

variable (hbelong : Belong indexes hits) (h : indexes.WellFormed)
include hbelong h

/-- The data columns are those of the indexes that have a result. -/
theorem mem_columns_iff {column : Text} :
    column ∈ columns indexes hits ↔
      ∃ index ∈ indexes.values, (∃ hit ∈ hits, hit.index = index.name) ∧
        column ∈ index.columns := by
  rw [columns_eq_union hbelong h, mem_union]
  constructor
  · rintro ⟨hit, hhit, hcolumn⟩
    obtain ⟨index, hindex, -, hget, -, hkeys, -⟩ := hbelong.index h hhit
    have hname : index.name = hit.index := h.name _ _ (Entries.mem_of_get? hget)
    exact ⟨index, hindex, ⟨hit, hhit, hname.symm⟩, hkeys ▸ hcolumn⟩
  · rintro ⟨index, hindex, ⟨hit, hhit, hname⟩, hcolumn⟩
    obtain ⟨other, -, -, hget, -, hkeys, -⟩ := hbelong.index h hhit
    rw [hname, h.get?_name hindex, Option.some_inj] at hget
    exact ⟨hit, hhit, by rwa [hkeys, ← hget]⟩

theorem nodup_header_iff :
    (header indexes hits).Nodup ↔
      ∀ index ∈ indexes.values, (∃ hit ∈ hits, hit.index = index.name) →
        indexColumn ∉ index.columns := by
  have hheader : header indexes hits = indexColumn :: columns indexes hits := rfl
  rw [hheader, List.nodup_cons, and_iff_left (nodup_columns hbelong h), mem_columns_iff hbelong h]
  constructor
  · intro hfree index hindex hhit hcolumn
    exact hfree ⟨index, hindex, hhit, hcolumn⟩
  · rintro hfree ⟨index, hindex, hhit, hcolumn⟩
    exact hfree index hindex hhit hcolumn

theorem fields_first_line :
    (Text.split '\n' (csv indexes hits)).head?.map Csv.fields = some (header indexes hits) := by
  rw [split_csv hbelong h, texts, List.map_cons, List.head?_cons, Option.map_some,
    fields_row_of_mem hbelong h List.mem_cons_self, header]

/-- Reading an export back keeps one column of each name. -/
theorem columns_parse_csv :
    (Table.parse (csv indexes hits)).columns = (header indexes hits).eraseDups := by
  rw [Table.parse, lines_csv hbelong h, texts, List.map_cons, Table.ofLines,
    fields_row_of_mem hbelong h List.mem_cons_self, header]

theorem columns_parse_csv_eq_iff :
    (Table.parse (csv indexes hits)).columns = header indexes hits ↔
      (header indexes hits).Nodup := by
  rw [columns_parse_csv hbelong h]
  constructor
  · intro hkept
    exact hkept ▸ Entries.nodup_eraseDups (header indexes hits)
  · exact Entries.eraseDups_eq_self

end Belong

end Export

/-- The header row of the sheet of results shows the names over the columns. -/
theorem Report.visible_header {sheet : Sheet} {indexes : IndexMap} {hits : List (Hit Text)}
    (h : sheet.Report "Results".toList (resultColumns (Export.frame id indexes hits).columns)
      ((Export.frame id indexes hits).rows.map fun row => row.map Value.text)) :
    ∃ cells : List Cell, sheet.visible[3]? = some (cells.map some) ∧
      List.Forall₂ Sheet.Holds (Export.header indexes hits) cells := by
  have hlength : ∀ row ∈ (Export.frame id indexes hits).rows,
      row.length = (resultColumns (Export.frame id indexes hits).columns).length := by
    intro row hrow
    rw [length_resultColumns, Export.length_of_mem_texts (List.mem_cons_of_mem _ hrow)]
    rfl
  refine h.visible_texts (i := 0) (fun _ hcolumn => kind_ne_number hcolumn) hlength ?_
  rw [map_label_resultColumns]
  rfl

namespace Store

/-- **Headers of exports are distinct unless an index column is exported again.** Whatever
the query, no name stands twice in the header of the results, unless an index with a result
has a column called like the one with the index names; then this name does. The header is
what the first line of the exported text has for fields and, within the limits of sheets,
what the header row of the workbook's results shows. Reading the text back finds the same
columns exactly if they are distinct, and otherwise one of each name. -/
theorem header_nodup_iff {store : Store} (h : store.Reachable) (query : Text) :
    let hits := (store.setQuery query).results
    let header := (Export.frame id store.indexes hits).columns
    let csv := Export.csv store.indexes hits
    (header.Nodup ↔ ∀ index ∈ store.indexes.values, (∃ hit ∈ hits, hit.index = index.name) →
      Export.indexColumn ∉ index.columns) ∧
    (Text.split '\n' csv).head?.map Csv.fields = some header ∧
    ((Table.parse csv).columns = header ↔ header.Nodup) ∧
    (Table.parse csv).columns = header.eraseDups ∧
    (1 + (Export.columns store.indexes hits).length ≤ Sheet.lastColumn →
      4 + hits.length ≤ Sheet.lastRow →
      4 + (Report.profileRows (store.setQuery query) hits).length ≤ Sheet.lastRow →
      ∃ (results fields : Sheet) (cells : List Cell),
        Report.workbook (store.setQuery query) hits = .ok ⟨[results, fields]⟩ ∧
        results.title = "Results".toList ∧ results.visible[3]? = some (cells.map some) ∧
        List.Forall₂ (fun name cell =>
            cell.value = .text ((name.filter fun c => !Sheet.isControl c).take Sheet.maxText) ∧
            cell.kind = .text)
          header cells) := by
  intro hits header csv
  have hwell : store.indexes.WellFormed := h.wellFormed
  have hbelong : Export.Belong store.indexes hits :=
    Export.belong_hits hwell (Query.read query)
  refine ⟨Export.nodup_header_iff hbelong hwell, Export.fields_first_line hbelong hwell,
    Export.columns_parse_csv_eq_iff hbelong hwell, Export.columns_parse_csv hbelong hwell, ?_⟩
  intro hwidth hheight hprofiles
  have hwidth : 1 + (Export.columns (store.setQuery query).indexes hits).length
      ≤ Sheet.lastColumn := hwidth
  obtain ⟨results, fields, hbook, hresults, -⟩ :=
    Report.exists_workbook hwidth hheight hprofiles
  obtain ⟨cells, hcells, hholds⟩ := Report.visible_header hresults
  exact ⟨results, fields, cells, hbook, hresults.title, hcells,
    hholds.imp fun name cell hcell => ⟨hcell.value, hcell.kind⟩⟩

/-- A loaded export does not matter as long as it has no result. -/
theorem header_nodup_iff_unrepresented :
    let store := (empty 100).applyAll
      [.ingest "a.csv".toList "x,y\n1,2".toList, .ingest "hits.csv".toList "_index,x\na,1".toList]
    let hits := (store.setQuery "2".toList).results
    store.Reachable ∧ (Export.frame id store.indexes hits).columns.Nodup ∧
      (Table.parse (Export.csv store.indexes hits)).columns
        = ["_index".toList, "x".toList, "y".toList] := by
  intro store hits
  have h : store.Reachable := ⟨100, _, rfl⟩
  have hfree : ∀ index ∈ store.indexes.values, (∃ hit ∈ hits, hit.index = index.name) →
      Export.indexColumn ∉ index.columns := by
    decide +kernel
  obtain ⟨hiff, -, hread, -, -⟩ := header_nodup_iff h "2".toList
  have hnodup : (Export.frame id store.indexes hits).columns.Nodup := hiff.mpr hfree
  exact ⟨h, hnodup, (hread.mpr hnodup).trans (by decide +kernel)⟩

/-- An earlier export that is loaded and exported again: the index column is there twice, and
read back once, with the values that the file brought along. -/
theorem header_repeats_index_column :
    let store := (empty 100).applyAll [.ingest "hits.csv".toList "_index,x\nDNSCache,1".toList]
    let hits := (store.setQuery []).results
    store.Reachable ∧
      (Export.frame id store.indexes hits).columns
        = ["_index".toList, "_index".toList, "x".toList] ∧
      ¬ (Export.frame id store.indexes hits).columns.Nodup ∧
      Table.parse (Export.csv store.indexes hits)
        = ⟨["_index".toList, "x".toList],
          [[("_index".toList, "DNSCache".toList), ("x".toList, "1".toList)]]⟩ := by
  intro store hits
  refine ⟨⟨100, _, rfl⟩, ?_, ?_, ?_⟩ <;> decide +kernel

end Store

end ArtifactSearch
