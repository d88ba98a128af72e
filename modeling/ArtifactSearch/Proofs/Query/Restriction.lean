import ArtifactSearch.Proofs.Query.Scope
import ArtifactSearch.Proofs.Query.Selection
import ArtifactSearch.Proofs.Store.Locality

/-!
# ArtifactSearch.Proofs.Query.Restriction

**Naming an index restricts a query to it.** Behind the keyword and a name, a text finds what
it finds by itself, less the results of other indexes (`Store.results_keyword_append`). By
themselves both readings pick the same records of the index (`block_within_name`), and the
results of one index are a block (`SplitAt.filter_eq_block`).

A text over several lines is no exception. It is not read behind a name at all, and is
found nowhere, with the name or without.
-/

namespace ArtifactSearch

namespace Query

variable {index : Index} {name needle : Text} {before block later hits : List (Hit Text)}

/-- Of the results, those of one index are its block. -/
theorem SplitAt.filter_eq_block (h : SplitAt name before block later hits) :
    hits.filter (fun hit => hit.index = name) = block := by
  have hothers : ∀ part, part ⊆ before ++ later →
      part.filter (fun hit => hit.index = name) = [] := fun part hpart => by
    rw [List.filter_eq_nil_iff]
    exact fun hit hmem => by simpa using h.others hit (hpart hmem)
  rw [h.whole, List.filter_append, List.filter_append, hothers before (List.subset_append_left _ _),
    hothers later (List.subset_append_right _ _), List.nil_append, List.append_nil,
    List.filter_eq_self]
  exact fun hit hmem => by simpa using h.own hit hmem

/-- Of the results over a map, those of one index are its block. -/
theorem filter_hits {m : IndexMap} (h : m.WellFormed) (hindex : index ∈ m.values) (query : Query) :
    (query.hits m.values).filter (fun hit => hit.index = index.name) = query.block index := by
  obtain ⟨before, later, hsplit, hothers⟩ := h.exists_split_of_get? (h.get?_name hindex)
  have hblock : query.hits [index] = query.block index := by
    rw [hits_eq_flatMap, List.flatMap_singleton]
  rw [(h.splitAt_hits hsplit hothers query).filter_eq_block, hblock]

/-- Within its own index a needle finds what it finds there anyway. -/
theorem block_within_name (index : Index) (needle : Text) :
    (within (Text.lower index.name) needle).block index = (anywhere needle).block index := by
  have hpicks : (within (Text.lower index.name) needle).picks index
      = (anywhere needle).picks index := by
    funext record
    simp [picks]
  rw [block, hpicks, block]

/-- The blank query is a search for nothing. -/
theorem block_read {text : Text} (h : indexForm? (Text.trim Blank.isSpace text) = none)
    (index : Index) :
    (read text).block index
      = (anywhere (Text.lower (Text.trim Blank.isSpace text))).block index := by
  by_cases hnil : Text.trim Blank.isSpace text = []
  · rw [read_of_nil hnil, hnil]
    rfl
  · rw [read_of_indexForm?_eq_none hnil h]

/-- A needle with a line feed is found in no table. -/
theorem hits_anywhere_of_newline {m : IndexMap} (h : m.WellFormed) (hneedle : '\n' ∈ needle) :
    (anywhere needle).hits m.values = [] := by
  refine hits_eq_nil fun index hindex record hrecord hpicked => ?_
  rw [picks_anywhere_iff (List.ne_nil_of_mem hneedle)] at hpicked
  exact not_contains_of_newline hneedle (h.table_of_mem_values hindex) hrecord hpicked

section Keyword

variable {m : IndexMap} (h : m.WellFormed) (hindex : index ∈ m.values) (hne : name ≠ [])
  (hname : ∀ c ∈ name, Text.isAlphanumeric c = true)
  (hlower : Text.lower name = Text.lower index.name)

include h hindex hne hname hlower

/-- Behind the keyword and the name of an index, in any casing, a text finds in it what it finds
there by itself. -/
theorem hits_read_keyword_append_space (further : Text) :
    (read ("index=".toList ++ (name ++ ' ' :: further))).hits m.values
      = (anywhere (Text.lower (Text.trim Blank.isSpace further))).block index := by
  obtain ⟨rest, hscoped, hrest⟩ := exists_scoped_keyword_append_space hne hname further
  rw [read_of_scoped hscoped, hrest]
  by_cases hfeed : '\n' ∈ Text.trim Blank.isSpace further
  · -- The whole is read as plain text, and finds as little as the further text.
    obtain ⟨keyword, -, hspelled⟩ := hscoped.spelled
    have hwhole : '\n' ∈ Text.lower (Text.trim Blank.isSpace
        ("index=".toList ++ (name ++ ' ' :: further))) := by
      rw [Text.newline_mem_lower, hspelled]
      simp [Text.mem_of_mem_trim (hrest ▸ hfeed)]
    rw [if_pos hfeed, hits_anywhere_of_newline h hwhole, ← filter_hits h hindex,
      hits_anywhere_of_newline h (Text.newline_mem_lower.mpr hfeed), List.filter_nil]
  · rw [if_neg hfeed, hlower, hits_within_eq_block h hindex, block_within_name]

end Keyword

end Query

namespace Store

/-- **A query for an index and a text restricts the query for the text.** The name may be in any
casing. Of the results of the text, which is not of the `index=` form itself, those of the index
are left, in their order. Without a text, or with a blank one, all records of the index are
found, in their order, and nothing else. -/
theorem results_keyword_append {store : Store} (h : store.Reachable) {index : Index}
    (hindex : index ∈ store.indexes.values) (hne : index.name ≠ []) {name : Text}
    (hname : name.map Char.toLower = index.name.map Char.toLower) {text : Text}
    (htext : Query.indexForm? (Text.trim Blank.isSpace text) = none) :
    let named := (store.setQuery ("index=".toList ++ name ++ " ".toList ++ text)).results
    named = (store.setQuery text).results.filter (fun hit => hit.index = index.name) ∧
    (Text.trim Blank.isSpace text = [] → named = index.records.map (Hit.mk index.name)) ∧
    (store.setQuery ("index=".toList ++ name)).results
      = index.records.map (Hit.mk index.name) := by
  intro named
  have hwell := h.wellFormed
  have hloaded : index.name ∈ store.indexes.keys := by
    rw [← Entries.get?_isSome, hwell.get?_name hindex, Option.isSome_some]
  have halphanumeric := hwell.alphanumeric _ hloaded
  have hletters := Text.isAlphanumeric_of_map_toLower_eq hname halphanumeric
  have hlower := Text.lower_eq_of_map_toLower_eq hname halphanumeric
  have hoccupied : name ≠ [] := by
    rintro rfl
    exact hne (List.map_eq_nil_iff.mp hname.symm)
  have hfilter : (store.setQuery text).results.filter (fun hit => hit.index = index.name)
      = (Query.anywhere (Text.lower (Text.trim Blank.isSpace text))).block index := by
    rw [results_setQuery, Query.filter_hits hwell hindex, Query.block_read htext]
  have hnamed : named
      = (Query.anywhere (Text.lower (Text.trim Blank.isSpace text))).block index := by
    show (store.setQuery _).results = _
    rw [results_setQuery, List.append_assoc, List.append_assoc]
    exact Query.hits_read_keyword_append_space hwell hindex hoccupied hletters hlower text
  refine ⟨hnamed.trans hfilter.symm, fun hblank => ?_, ?_⟩
  · rw [hnamed, hblank, ← Query.block_within_name]
    exact Query.block_within_self index
  · rw [results_setQuery, Query.read_keyword_append hoccupied hletters, hlower,
      Query.hits_within hwell hindex]

/-- The name in another casing, and further text that matches a column of one index and a value
of another. -/
theorem results_keyword_append_recased :
    let store := (empty 100).applyAll
      [.ingest "Users.csv".toList "Name,Host\nann,a1\nbob,b2".toList,
        .ingest "dns_cache.csv".toList "Entry\nann.example\nhost".toList]
    let index := Index.ofTable "Users".toList "Users.csv".toList
      (Table.parse "Name,Host\nann,a1\nbob,b2".toList)
    let text := "\tHOST\n".toList
    store.Reachable ∧ index ∈ store.indexes.values ∧ index.name ≠ [] ∧
      "uSERS".toList.map Char.toLower = index.name.map Char.toLower ∧
      Query.indexForm? (Text.trim Blank.isSpace text) = none ∧
      (store.setQuery text).results.length = 3 ∧
      (store.setQuery ("index=".toList ++ "uSERS".toList ++ " ".toList ++ text)).results
        = index.records.map (Hit.mk "Users".toList) := by
  intro store index text
  have h : store.Reachable := ⟨100, _, rfl⟩
  have hindex : index ∈ store.indexes.values := by decide +kernel
  have hne : index.name ≠ [] := by decide
  have hname : "uSERS".toList.map Char.toLower = index.name.map Char.toLower := by decide
  have htext : Query.indexForm? (Text.trim Blank.isSpace text) = none := by decide
  have hnamed := (results_keyword_append h hindex hne hname htext).1
  exact ⟨h, hindex, hne, hname, htext, by decide +kernel, hnamed.trans (by decide +kernel)⟩

end Store

end ArtifactSearch
