import ArtifactSearch.Export
import ArtifactSearch.Proofs.Query.Block
import ArtifactSearch.Proofs.Store.Invariant

/-!
# ArtifactSearch.Proofs.Export.Columns

**The data columns of an export.** Results of a well-formed index map `belong` to
it: each is a record of the index it names, and so has that index's columns as its
keys. Then the columns of a single represented index are the columns that occur in
its results, and the two ways to find the data columns agree
(`columns_eq_union`). An export that knows no index map is therefore the same
(`Store.export_without_indexes`).
-/

namespace ArtifactSearch.Export

/-- Every result is a record of the index it names. -/
def Belong (indexes : IndexMap) (hits : List (Hit Text)) : Prop :=
  ∀ hit ∈ hits, ∃ index, indexes.get? hit.index = some index ∧ hit.row ∈ index.records

variable {α : Type} {indexes : IndexMap} {hits : List (Hit Text)}

theorem belong_hits (h : indexes.WellFormed) (query : Query) :
    Belong indexes (query.hits indexes.values) := by
  intro hit hmem
  obtain ⟨index, hindex, hname, hrow⟩ := Query.mem_hits hmem
  refine ⟨index, ?_, hrow⟩
  rw [hname, h.get?_name hindex]

/-- The loaded index of a result and what the result has of it. -/
theorem Belong.index (hbelong : Belong indexes hits) (h : indexes.WellFormed) {hit : Hit Text}
    (hmem : hit ∈ hits) :
    ∃ index ∈ indexes.values, index.table.WellFormed ∧ indexes.get? hit.index = some index ∧
      hit.row ∈ index.records ∧ hit.row.keys = index.columns ∧ index.columns ≠ [] := by
  obtain ⟨index, hget, hrow⟩ := hbelong hit hmem
  have hentry := Entries.mem_of_get? hget
  have htable := h.table _ _ hentry
  refine ⟨index, List.mem_map.mpr ⟨_, hentry, rfl⟩, htable, hget, hrow, htable.keys _ hrow, ?_⟩
  intro hbare
  have hnone : index.records = [] := htable.bare hbare
  rw [hnone] at hrow
  cases hrow

/-! ### The union of columns -/

/-- Results that all have the same keys have these as their columns. -/
theorem union_eq_of_keys {columns : List Text} (hne : hits ≠ []) (hnodup : columns.Nodup)
    (hkeys : ∀ hit ∈ hits, hit.row.keys = columns) : union hits = columns := by
  cases hits with
  | nil => exact absurd rfl hne
  | cons hit rest =>
      rw [union, List.flatMap_cons, hkeys hit (by simp)]
      refine Entries.eraseDups_append_of_subset hnodup fun column hmem => ?_
      obtain ⟨other, hother, hcolumn⟩ := List.mem_flatMap.mp hmem
      rwa [hkeys other (by simp [hother])] at hcolumn

theorem mem_union {column : Text} :
    column ∈ union hits ↔ ∃ hit ∈ hits, column ∈ hit.row.keys := by
  rw [union, List.mem_eraseDups, List.mem_flatMap]

/-- If one index is represented, every result names it. -/
theorem index_eq_of_represented {name : Text} (h : represented hits = [name]) {hit : Hit Text}
    (hmem : hit ∈ hits) : hit.index = name := by
  have hrepresented : hit.index ∈ represented hits :=
    List.mem_eraseDups.mpr (List.mem_map_of_mem hmem)
  rwa [h, List.mem_singleton] at hrepresented

/-- The columns of the one represented index are those that occur in its
results. -/
theorem columns_eq_union (hbelong : Belong indexes hits) (h : indexes.WellFormed) :
    columns indexes hits = union hits := by
  unfold columns
  split
  · rename_i name hname
    split
    · rename_i index hget
      have htable := h.table _ _ (Entries.mem_of_get? hget)
      have hne : hits ≠ [] := by
        rintro rfl
        cases hname
      -- Every result has exactly the columns of the one index as its keys.
      refine (union_eq_of_keys hne htable.nodup fun hit hmem => ?_).symm
      obtain ⟨other, -, -, hother, -, hkeys, -⟩ := hbelong.index h hmem
      rw [index_eq_of_represented hname hmem, hget, Option.some_inj] at hother
      rw [hkeys, ← hother]
      rfl
    · rfl
  · rfl

/-- Without an index map the columns are always those that occur in the results. -/
theorem columns_nil (hits : List (Hit α)) : columns [] hits = union hits := by
  unfold columns
  split <;> rfl

/-- The index map has no part in an export but to find the columns. -/
theorem frame_congr {other : IndexMap} {hits : List (Hit α)}
    (h : columns indexes hits = columns other hits) (ofText : Text → α) :
    frame ofText indexes hits = frame ofText other hits := by
  rw [frame, h, frame]

/-- Every data column is a column of some loaded index. -/
theorem mem_columns (hbelong : Belong indexes hits) (h : indexes.WellFormed) {column : Text}
    (hmem : column ∈ columns indexes hits) :
    ∃ index ∈ indexes.values, column ∈ index.columns := by
  rw [columns_eq_union hbelong h, mem_union] at hmem
  obtain ⟨hit, hhit, hcolumn⟩ := hmem
  obtain ⟨index, hindex, -, -, -, hkeys, -⟩ := hbelong.index h hhit
  exact ⟨index, hindex, hkeys ▸ hcolumn⟩

theorem nodup_columns (hbelong : Belong indexes hits) (h : indexes.WellFormed) :
    (columns indexes hits).Nodup := by
  rw [columns_eq_union hbelong h]
  exact Entries.nodup_eraseDups _

/-- Where there are results there are data columns. -/
theorem columns_ne_nil (hbelong : Belong indexes hits) (h : indexes.WellFormed)
    (hne : hits ≠ []) : columns indexes hits ≠ [] := by
  obtain ⟨hit, hmem⟩ := List.exists_mem_of_ne_nil hits hne
  obtain ⟨index, -, -, -, -, hkeys, hcolumns⟩ := hbelong.index h hmem
  obtain ⟨column, hcolumn⟩ := List.exists_mem_of_ne_nil _ hcolumns
  rw [columns_eq_union hbelong h]
  exact List.ne_nil_of_mem (mem_union.mpr ⟨hit, hmem, hkeys ▸ hcolumn⟩)

end ArtifactSearch.Export

namespace ArtifactSearch.Store

/-- **Exports need no index map.** The results of a query have the same data columns, the same
frame and the same text whether or not an export may look up the columns of the one index they
come from (`[]` is no index map): they carry these columns along. -/
theorem export_without_indexes {store : Store} (h : store.Reachable) (query : Text) :
    let hits := (store.setQuery query).results
    Export.columns store.indexes hits = Export.columns [] hits ∧
    Export.frame id store.indexes hits = Export.frame id [] hits ∧
    Export.csv store.indexes hits = Export.csv [] hits := by
  intro hits
  have hwell : store.indexes.WellFormed := h.wellFormed
  have hcolumns : Export.columns store.indexes hits = Export.columns [] hits := by
    rw [Export.columns_nil]
    exact Export.columns_eq_union (Export.belong_hits hwell (Query.read query)) hwell
  have hframe := Export.frame_congr hcolumns id
  refine ⟨hcolumns, hframe, ?_⟩
  rw [Export.csv, hframe, Export.csv]

/-- A query with one result of the second of two indexes, which have a column in common and one
of whose names is repeated. -/
theorem export_without_indexes_single :
    let store := (empty 100).applyAll
      [.ingest "a.csv".toList "x,y\n1,2".toList, .ingest "b.csv".toList "z,x,z\n1,3\n4,5,6".toList]
    let hits := (store.setQuery "5".toList).results
    store.Reachable ∧
      Export.columns [] hits = ["z".toList, "x".toList] ∧
      Export.csv [] hits = "_index,z,x\nb,6,5".toList ∧
      Export.csv store.indexes hits = "_index,z,x\nb,6,5".toList := by
  intro store hits
  have h : store.Reachable := ⟨100, _, rfl⟩
  obtain ⟨hcolumns, -, hcsv⟩ := export_without_indexes h "5".toList
  have htext : Export.csv [] hits = "_index,z,x\nb,6,5".toList := by decide +kernel
  exact ⟨h, hcolumns.symm.trans (by decide +kernel), htext, hcsv.trans htext⟩

end ArtifactSearch.Store
