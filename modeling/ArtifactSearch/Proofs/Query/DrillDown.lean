import ArtifactSearch.Proofs.Profile
import ArtifactSearch.Proofs.Query.Scope
import ArtifactSearch.Proofs.Query.Selection
import ArtifactSearch.Proofs.Text.Words

/-!
# ArtifactSearch.Proofs.Query.DrillDown

**From a reported value to its records.** A profile counts the records of its index that
have a value in a column. Asking for the index and that value, as one query text, finds
them all again.

The value arrives as the needle without the white space around it
(`read_keyword_append_space`), and in lower case by itself. In the record it stays whole and
is lower-cased with everything around the needle. That the needle is found nevertheless is
`Text.lower_trim_isInfix`.
-/

namespace ArtifactSearch

namespace Query

variable {index : Index} {record : Record} {column value : Text}

theorem contains_of_get? (columns : List Text) (h : record.get? column = some value) :
    Contains (Text.lower (Text.trim Blank.isSpace value)) columns record :=
  .inl ⟨value, List.mem_map.mpr ⟨_, Entries.mem_of_get? h, rfl⟩, Text.lower_trim_isInfix value⟩

theorem sublist_block {query : Query} {p : Record → Bool}
    (h : ∀ record, p record = true → query.picks index record = true) :
    List.Sublist ((index.records.filter p).map (Hit.mk index.name)) (query.block index) :=
  (List.monotone_filter_right _ h).map _

theorem block_sublist (query : Query) (index : Index) :
    List.Sublist (query.block index) (index.records.map (Hit.mk index.name)) :=
  List.filter_sublist.map _

end Query

namespace Store

/-- **Profiles and queries agree.** There is a profile for every column of a loaded index.
Each value that it reports is counted exactly, and the query for the index and the value
has results of that index only, in record order, and among them all the records that were
counted. -/
theorem results_of_reported_value {store : Store} (h : store.Reachable) {index : Index}
    (hindex : index ∈ store.indexes.values) (hname : index.name ≠ []) :
    (store.profiles index.name).map Profile.column = index.columns ∧
    ∀ profile ∈ store.profiles index.name, ∀ value count, (value, count) ∈ profile.top →
      let holders := index.records.filter fun record => record.get? profile.column = some value
      let hits := (store.setQuery ("index=".toList ++ index.name ++ " ".toList ++ value)).results
      count = holders.length ∧
      List.Sublist (holders.map (Hit.mk index.name)) hits ∧
      List.Sublist hits (index.records.map (Hit.mk index.name)) := by
  have hwell := h.wellFormed
  have hloaded : index.name ∈ store.indexes.keys := by
    rw [← Entries.get?_isSome, hwell.get?_name hindex, Option.isSome_some]
  rw [profiles_name hwell hindex]
  refine ⟨Profile.map_column_ofRecords _ _ _, ?_⟩
  intro profile hprofile value count htop holders hits
  obtain ⟨⟨record, hrecord, hget⟩, hcount⟩ := Profile.mem_top_of_mem_ofRecords hprofile htop
  -- The value stands in a record, so it is on one line.
  have hline : '\n' ∉ value := ((hwell.table_of_mem_values hindex).valueCells record hrecord value
    (List.mem_map.mpr ⟨_, Entries.mem_of_get? hget, rfl⟩)).oneLine
  have hhits : hits = (Query.within (Text.lower index.name)
      (Text.lower (Text.trim Blank.isSpace value))).block index := by
    show (Query.read _).hits store.indexes.values = _
    rw [List.append_assoc, List.append_assoc]
    show (Query.read ("index=".toList ++ (index.name ++ ' ' :: value))).hits _ = _
    rw [Query.read_keyword_append_space hname (hwell.alphanumeric _ hloaded) hline,
      Query.hits_within_eq_block hwell hindex]
  rw [hhits]
  refine ⟨hcount, Query.sublist_block ?_, Query.block_sublist _ _⟩
  intro holder hholder
  exact Query.picks_within_iff.mpr
    ⟨rfl, fun _ => Query.contains_of_get? _ (by simpa using hholder)⟩

/-- A value that looks like a query and ends in a capital sigma and a control character. -/
theorem results_of_reported_value_sigma :
    let value := "index=s ΟΔΟΣ\x1c".toList
    let content := "Name,Note\nann,index=s ΟΔΟΣ\x1c\neve,οδοσ\nbob,\"index=s ΟΔΟΣ\x1c\"".toList
    let store := (empty 100).applyAll [.ingest "s.csv".toList content]
    let index := Index.ofTable "s".toList "s.csv".toList (Table.parse content)
    let profile : Profile := ⟨"Note".toList, [(value, 2), ("οδοσ".toList, 1)]⟩
    let hit (name : Text) : Hit Text :=
      ⟨"s".toList, [("Name".toList, name), ("Note".toList, value)]⟩
    store.Reachable ∧ index ∈ store.indexes.values ∧ index.name ≠ [] ∧
      profile ∈ store.profiles index.name ∧ (value, 2) ∈ profile.top ∧
      List.Sublist [hit "ann".toList, hit "bob".toList]
        (store.setQuery ("index=".toList ++ index.name ++ " ".toList ++ value)).results := by
  intro value content store index profile hit
  have h : store.Reachable := ⟨100, _, rfl⟩
  have hindex : index ∈ store.indexes.values := by decide +kernel
  have hname : index.name ≠ [] := by decide
  have hcolumn : index.records.filterMap (fun record => record.get? "Note".toList)
      = [value, "οδοσ".toList, value] := by decide +kernel
  -- The values are ranked as they stand.
  have hranked : Profile.topValues Profile.defaultLimit [value, "οδοσ".toList, value]
      = profile.top := by
    rw [Profile.topValues, Profile.ranked, List.mergeSort_of_pairwise (by decide)]
    decide +kernel
  have hprofile : profile ∈ store.profiles index.name := by
    rw [profiles_name h.wellFormed hindex]
    exact List.mem_map.mpr ⟨"Note".toList, by decide +kernel, by rw [hcolumn, hranked]⟩
  have htop : (value, 2) ∈ profile.top := List.mem_cons_self
  obtain ⟨-, hfound, -⟩ :=
    (results_of_reported_value h hindex hname).2 profile hprofile value 2 htop
  have hholders : (index.records.filter fun record => record.get? profile.column = some value).map
      (Hit.mk index.name) = [hit "ann".toList, hit "bob".toList] := by decide +kernel
  rw [hholders] at hfound
  exact ⟨h, hindex, hname, hprofile, htop, hfound⟩

end Store

end ArtifactSearch
