import ArtifactSearch.Proofs.Export.Columns
import ArtifactSearch.Proofs.Text.Alphanumeric

/-!
# ArtifactSearch.Proofs.Export.RoundTrip

**Exports are read back as they were written.** An export is a written table
(`csv_eq_written`) whose names and cells are cells of delimited text, since they
all come from parsed tables or from file names. Its header line is kept for the
underscore in the name of the index column. The line of a result is kept for its
comma: where there are results there are data columns, so that it has two cells
or more, be they all empty.
-/

namespace ArtifactSearch

namespace Csv

/-- A text of letters and digits is a cell. -/
theorem isCell_of_alphanumeric {s : Text} (h : ∀ c ∈ s, Text.isAlphanumeric c = true) :
    IsCell s where
  trimmed :=
    { first := fun c hc => Blank.isEdge_of_isAlphanumeric (h c (List.mem_of_head? hc))
      last := fun c hc => Blank.isEdge_of_isAlphanumeric (h c (List.mem_of_getLast? hc)) }
  oneLine := fun hfeed => absurd (h _ hfeed) (by decide)

end Csv

namespace Export

/-- The cell of a result in a column. -/
def cell (hit : Hit Text) (name : Text) : Text :=
  if name = indexColumn then hit.index else (hit.row.get? name).getD []

@[simp] theorem cell_indexColumn (hit : Hit Text) : cell hit indexColumn = hit.index := if_pos rfl

theorem cell_of_ne {name : Text} (h : name ≠ indexColumn) (hit : Hit Text) :
    cell hit name = (hit.row.get? name).getD [] :=
  if_neg h

variable {indexes : IndexMap} {hits : List (Hit Text)}

/-- An export is the table of its results' cells. -/
theorem csv_eq_written (h : indexColumn ∉ columns indexes hits) :
    csv indexes hits = Table.written (indexColumn :: columns indexes hits) (hits.map cell) := by
  have hrow : ∀ hit : Hit Text,
      hit.index :: (columns indexes hits).map (fun column => (hit.row.get? column).getD [])
        = (indexColumn :: columns indexes hits).map (cell hit) := by
    intro hit
    rw [List.map_cons, cell_indexColumn]
    congr 1
    refine List.map_congr_left fun column hmem => (cell_of_ne ?_ hit).symm
    exact fun heq => h (heq ▸ hmem)
  simp only [csv, csvOf, frame, Table.written, List.map_map, id, Function.comp_def, hrow]

/-! ### Names and cells -/

theorem isCell_indexColumn : Csv.IsCell indexColumn where
  trimmed :=
    { first := fun _ hc => Option.some.inj hc ▸ rfl
      last := fun _ hc => Option.some.inj hc ▸ rfl }
  oneLine := by decide

theorem isCell_of_mem_header (hbelong : Belong indexes hits) (h : indexes.WellFormed)
    {name : Text} (hmem : name ∈ indexColumn :: columns indexes hits) : Csv.IsCell name := by
  rcases List.mem_cons.mp hmem with rfl | hcolumn
  · exact isCell_indexColumn
  · obtain ⟨index, hindex, hname⟩ := mem_columns hbelong h hcolumn
    exact (h.table_of_mem_values hindex).columnCells name hname

theorem isCell_index (hbelong : Belong indexes hits) (h : indexes.WellFormed) {hit : Hit Text}
    (hmem : hit ∈ hits) : Csv.IsCell hit.index := by
  obtain ⟨index, -, -, hget, -⟩ := hbelong.index h hmem
  have hkey : hit.index ∈ indexes.keys := List.mem_map_of_mem (Entries.mem_of_get? hget)
  exact Csv.isCell_of_alphanumeric (h.alphanumeric _ hkey)

theorem isCell_value (hbelong : Belong indexes hits) (h : indexes.WellFormed) {hit : Hit Text}
    (hmem : hit ∈ hits) (name : Text) : Csv.IsCell ((hit.row.get? name).getD []) := by
  obtain ⟨index, -, htable, -, hrow, -⟩ := hbelong.index h hmem
  cases hvalue : hit.row.get? name with
  | none => exact Csv.isCell_nil
  | some value =>
      have hmemValue : value ∈ hit.row.values :=
        List.mem_map.mpr ⟨_, Entries.mem_of_get? hvalue, rfl⟩
      exact htable.valueCells _ hrow value hmemValue

theorem isCell_cell (hbelong : Belong indexes hits) (h : indexes.WellFormed) {hit : Hit Text}
    (hmem : hit ∈ hits) (name : Text) : Csv.IsCell (cell hit name) := by
  unfold cell
  split
  · exact isCell_index hbelong h hmem
  · exact isCell_value hbelong h hmem name

/-! ### Lines -/

theorem underscore_mem_escape : '_' ∈ Csv.escape indexColumn := by decide

theorem isLine_header (hbelong : Belong indexes hits) (h : indexes.WellFormed) :
    Csv.IsLine (Csv.row (indexColumn :: columns indexes hits)) := by
  have hunderscore : '_' ∈ Csv.row (indexColumn :: columns indexes hits) := by
    cases columns indexes hits with
    | nil => decide
    | cons column rest =>
        simp [Csv.row, Text.join_cons_cons, underscore_mem_escape]
  exact Csv.isLine_row (fun _ hname => isCell_of_mem_header hbelong h hname) hunderscore (by decide)

/-- A row with a cell for each column of an export has two of them where there are
results, and so a comma. -/
theorem isLine_of_length (hbelong : Belong indexes hits) (h : indexes.WellFormed)
    (hne : hits ≠ []) {row : List Text} (hlength : row.length = (columns indexes hits).length + 1)
    (hcells : ∀ value ∈ row, Csv.IsCell value) : Csv.IsLine (Csv.row row) := by
  have hcolumns : 0 < (columns indexes hits).length :=
    List.length_pos_iff.mpr (columns_ne_nil hbelong h hne)
  cases row with
  | nil => cases hlength
  | cons value rest =>
      obtain ⟨next, rest, rfl⟩ := List.exists_cons_of_ne_nil
        (List.length_pos_iff.mp (by rw [List.length_cons] at hlength; omega : 0 < rest.length))
      exact Csv.isLine_row_cons_cons hcells

theorem isLine_cells (hbelong : Belong indexes hits) (h : indexes.WellFormed) {hit : Hit Text}
    (hmem : hit ∈ hits) :
    Csv.IsLine (Csv.row ((indexColumn :: columns indexes hits).map (cell hit))) := by
  refine isLine_of_length hbelong h (List.ne_nil_of_mem hmem) (List.length_map _) ?_
  exact List.forall_mem_map.mpr fun name _ => isCell_cell hbelong h hmem name

/-- Reading an export finds one record for each result, with its cells under the
index column and the data columns. -/
theorem parse_csv (hbelong : Belong indexes hits) (h : indexes.WellFormed)
    (hfree : indexColumn ∉ columns indexes hits) :
    Table.parse (csv indexes hits)
      = ⟨indexColumn :: columns indexes hits, hits.map fun hit =>
          (indexColumn :: columns indexes hits).map fun name => (name, cell hit name)⟩ := by
  have hnodup : (indexColumn :: columns indexes hits).Nodup :=
    List.nodup_cons.mpr ⟨hfree, nodup_columns hbelong h⟩
  rw [csv_eq_written hfree, Table.parse_written (List.cons_ne_nil _ _) hnodup
    (fun _ hname => isCell_of_mem_header hbelong h hname)
    (List.forall_mem_map.mpr fun _ hmem name _ => isCell_cell hbelong h hmem name)
    (isLine_header hbelong h)
    (List.forall_mem_map.mpr fun _ hmem => isLine_cells hbelong h hmem),
    List.map_map]
  rfl

end Export

namespace Store

/-- **Exported results are read back whole.** Reading the export of the results of
any query finds the index column and the data columns, and for each result, in
order, one record that holds its index name and, under each data column, its
value there or nothing. -/
theorem parse_csv_results {store : Store} (h : store.Reachable) (query : Text)
    (hfree : ∀ index ∈ store.indexes.values, Export.indexColumn ∉ index.columns) :
    let hits := (store.setQuery query).results
    let data := Export.columns store.indexes hits
    let table := Table.parse (Export.csv store.indexes hits)
    table.columns = Export.indexColumn :: data ∧
    table.records.length = hits.length ∧
    ∀ (i : Nat) (hit : Hit Text), hits[i]? = some hit →
      ∃ record, table.records[i]? = some record ∧ record.keys = Export.indexColumn :: data ∧
      record.get? Export.indexColumn = some hit.index ∧
      ∀ column ∈ data, record.get? column = some ((hit.row.get? column).getD []) := by
  intro hits data table
  have hwell : store.indexes.WellFormed := h.wellFormed
  have hbelong : Export.Belong store.indexes hits := Export.belong_hits hwell (Query.read query)
  have hdata : Export.indexColumn ∉ data := by
    intro hmem
    obtain ⟨index, hindex, hcolumn⟩ := Export.mem_columns hbelong hwell hmem
    exact hfree index hindex hcolumn
  have htable : table = ⟨Export.indexColumn :: data, hits.map fun hit =>
      (Export.indexColumn :: data).map fun name => (name, Export.cell hit name)⟩ :=
    Export.parse_csv hbelong hwell hdata
  rw [htable]
  refine ⟨rfl, List.length_map _, fun i hit hi => ?_⟩
  refine ⟨(Export.indexColumn :: data).map fun name => (name, Export.cell hit name), ?_, ?_, ?_, ?_⟩
  · rw [List.getElem?_map, hi, Option.map_some]
  · rw [Entries.keys, List.map_map]
    exact List.map_id _
  · rw [Entries.get?_map_pair _ List.mem_cons_self, Export.cell_indexColumn]
  · intro column hcolumn
    have hne : column ≠ Export.indexColumn := fun heq => hdata (heq ▸ hcolumn)
    rw [Entries.get?_map_pair _ (List.mem_cons_of_mem _ hcolumn), Export.cell_of_ne hne]

/-- The round trip at work: quoted commas and quotes, a carriage return inside a
value, two indexes with different columns, and last a row of empty values of an
index without a name. -/
theorem parse_csv_results_nameless :
    let store := (empty 100).applyAll
      [.ingest "a.csv".toList "N,M\n\"p,q\",\"say \"\"hi\"\"\"\nx\ry,".toList,
        .ingest "!.csv".toList "K\n\"\"".toList]
    let table := Table.parse (Export.csv store.indexes (store.setQuery []).results)
    store.Reachable ∧
      (∀ index ∈ store.indexes.values, Export.indexColumn ∉ index.columns) ∧
      table.records.length = 3 ∧
      ∃ record, table.records[2]? = some record ∧
        record.keys = ["_index".toList, "N".toList, "M".toList, "K".toList] ∧
        record.get? "_index".toList = some [] ∧ record.get? "K".toList = some [] := by
  intro store table
  have h : store.Reachable := ⟨100, _, rfl⟩
  have hfree : ∀ index ∈ store.indexes.values, Export.indexColumn ∉ index.columns := by
    decide +kernel
  obtain ⟨-, hlength, hrecords⟩ := parse_csv_results h [] hfree
  have hlast : (store.setQuery []).results[2]? = some ⟨[], [("K".toList, [])]⟩ := by
    decide +kernel
  have hdata : Export.columns store.indexes (store.setQuery []).results
      = ["N".toList, "M".toList, "K".toList] := by
    decide +kernel
  obtain ⟨record, hrecord, hkeys, hindex, hvalues⟩ := hrecords 2 _ hlast
  rw [hdata] at hkeys hvalues
  refine ⟨h, hfree, hlength.trans (by decide +kernel), record, hrecord, hkeys, hindex, ?_⟩
  exact hvalues "K".toList (by simp)

end Store

end ArtifactSearch
