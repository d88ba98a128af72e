import ArtifactSearch.Proofs.Query.Block
import ArtifactSearch.Proofs.Store.Invariant

/-!
# ArtifactSearch.Proofs.Store.Locality

**A change of one index moves the results in one place.** The results of any query are
blocks in map order (`Query.hits_eq_flatMap`), and in a well-formed map no other index has
the name of a block (`IndexMap.WellFormed.splitAt_hits`). Ingesting puts an index at its
old place or last, and removing takes it out, while the entries around it stay
(`Entries.put_append_cons`, `Entries.erase_append_cons`). So the results before and after
the block stay too, whatever the query, and so do the profiles of all other indexes.
-/

namespace ArtifactSearch

namespace Query

/-- Results of one index, the block, with those of others before and after it. -/
structure SplitAt (name : Text) (before block later hits : List (Hit Text)) : Prop where
  whole : hits = before ++ block ++ later
  own : ∀ hit ∈ block, hit.index = name
  others : ∀ hit ∈ before ++ later, hit.index ≠ name

theorem hits_nil (query : Query) : query.hits [] = [] := by
  rw [hits_eq_flatMap, List.flatMap_nil]

theorem hits_append (query : Query) (first second : List Index) :
    query.hits (first ++ second) = query.hits first ++ query.hits second := by
  simp only [hits_eq_flatMap, List.flatMap_append]

end Query

/-! ### The entries around an index -/

namespace IndexMap

variable {m before later : IndexMap} {key : Text} {index : Index}

theorem WellFormed.exists_split_of_get? (h : m.WellFormed) (hget : m.get? key = some index) :
    ∃ before later, m = before ++ (key, index) :: later ∧
      key ∉ Entries.keys (before ++ later) := by
  have hentry := Entries.mem_of_get? hget
  have hname : index.name = key := h.name key index hentry
  obtain ⟨before, later, hsplit, hothers⟩ := h.exists_split (List.mem_map.mpr ⟨_, hentry, rfl⟩)
  rw [hname] at hsplit hothers
  exact ⟨before, later, hsplit, fun hmem => hothers key hmem rfl⟩

/-- The results of an index are a block, and those around it are of the indexes around
it. -/
theorem WellFormed.splitAt_hits (h : m.WellFormed) (hsplit : m = before ++ (key, index) :: later)
    (hkey : key ∉ Entries.keys (before ++ later)) (query : Query) :
    Query.SplitAt key (query.hits before.values) (query.hits [index])
      (query.hits (Entries.values later)) (query.hits m.values) where
  whole := by
    have hvalues : Entries.values ((key, index) :: later) = [index] ++ Entries.values later := rfl
    rw [hsplit, Entries.values_append, hvalues, Query.hits_append, Query.hits_append,
      List.append_assoc]
  own := by
    intro hit hmem
    obtain ⟨other, hother, hname, -⟩ := Query.mem_hits hmem
    rw [List.mem_singleton] at hother
    rw [hname, hother]
    exact h.name key index (hsplit ▸ List.mem_append_right _ List.mem_cons_self)
  others := by
    intro hit hmem hown
    rw [← Query.hits_append, ← Entries.values_append] at hmem
    obtain ⟨other, hother, hname, -⟩ := Query.mem_hits hmem
    obtain ⟨⟨k, value⟩, hentry, rfl⟩ := List.mem_map.mp hother
    have hloaded : (k, value) ∈ m := by
      rw [hsplit]
      exact List.mem_append.mpr ((List.mem_append.mp hentry).imp_right (List.mem_cons_of_mem _))
    -- The result has the name of an index around, which is its key.
    have hsame : k = key := (h.name k value hloaded).symm.trans (hname.symm.trans hown)
    exact hkey (hsame ▸ List.mem_map_of_mem hentry)

end IndexMap

namespace Store

variable {store : Store}

/-! ### The results of any query -/

theorem results_setQuery (store : Store) (query : Text) :
    (store.setQuery query).results = (Query.read query).hits store.indexes.values := rfl

/-- A file whose index is not there yet adds results of this index, and those behind all
others. -/
theorem splitAt_ingest_of_new (h : store.indexes.WellFormed) {fileName : Text}
    (hnew : store.keyFor fileName ∉ store.indexes.keys) (content query : Text) :
    let key := store.keyFor fileName
    let index := Index.ofTable key fileName (Table.parse content)
    Query.SplitAt key (store.setQuery query).results ((Query.read query).hits [index]) []
      ((store.ingest fileName content).setQuery query).results := by
  intro key index
  have hafter : (store.ingest fileName content).indexes = store.indexes ++ [(key, index)] := by
    rw [indexes_ingest h, Entries.put_of_not_mem hnew]
  have hsplit := (wellFormed_ingest h fileName content).splitAt_hits hafter
    (by rwa [List.append_nil]) (Query.read query)
  rw [results_setQuery, results_setQuery, ← Query.hits_nil (Query.read query)]
  exact hsplit

/-- A file whose index is there replaces the results of this index where they are. -/
theorem splitAt_ingest_of_loaded (h : store.indexes.WellFormed) {fileName : Text} {old : Index}
    (hold : store.indexes.get? (store.keyFor fileName) = some old) (content query : Text) :
    let key := store.keyFor fileName
    let index := Index.ofTable key fileName (Table.parse content)
    ∃ before later,
      Query.SplitAt key before ((Query.read query).hits [old]) later
        (store.setQuery query).results ∧
      Query.SplitAt key before ((Query.read query).hits [index]) later
        ((store.ingest fileName content).setQuery query).results := by
  intro key index
  obtain ⟨before, later, hsplit, hkey⟩ := h.exists_split_of_get? hold
  have hbefore : key ∉ Entries.keys before := fun hmem => hkey (by
    rw [Entries.keys_append]
    exact List.mem_append_left _ hmem)
  have hafter : (store.ingest fileName content).indexes = before ++ (key, index) :: later := by
    rw [indexes_ingest h, hsplit, Entries.put_append_cons hbefore]
  exact ⟨_, _, h.splitAt_hits hsplit hkey (Query.read query),
    (wellFormed_ingest h fileName content).splitAt_hits hafter hkey (Query.read query)⟩

/-- Removing an index takes its results out. -/
theorem splitAt_remove (h : store.indexes.WellFormed) {key : Text} {old : Index}
    (hold : store.indexes.get? key = some old) (query : Text) :
    ∃ before later,
      Query.SplitAt key before ((Query.read query).hits [old]) later
        (store.setQuery query).results ∧
      ((store.remove key).setQuery query).results = before ++ later := by
  obtain ⟨before, later, hsplit, hkey⟩ := h.exists_split_of_get? hold
  refine ⟨_, _, h.splitAt_hits hsplit hkey (Query.read query), ?_⟩
  rw [results_setQuery, indexes_remove, hsplit, Entries.erase_append_cons hkey,
    Entries.values_append, Query.hits_append]

theorem remove_eq_self {key : Text} (hkey : key ∉ store.indexes.keys) : store.remove key = store :=
  if_neg fun hloaded => hkey (Entries.contains_iff.mp hloaded)

/-! ### Other indexes -/

theorem profiles_ingest_of_ne (h : store.indexes.WellFormed) {fileName name : Text}
    (hne : name ≠ store.keyFor fileName) (content : Text) :
    (store.ingest fileName content).profiles name = store.profiles name := by
  unfold profiles
  rw [indexes_ingest h, Entries.get?_put, if_neg (Ne.symm hne)]

theorem profiles_remove_of_ne (store : Store) {key name : Text} (hne : name ≠ key) :
    (store.remove key).profiles name = store.profiles name := by
  unfold profiles
  rw [indexes_remove, Entries.get?_erase_of_ne _ hne]

/-- **A change of one index moves the results of a query only there.** Whatever the query,
a file whose name is not loaded in any casing adds the results of its index behind all
others; a file for a loaded key puts the results of its index in the place of the old ones;
and a removal takes those of the removed index out, or does nothing at all if the key is
not loaded. In each case the results before and after are the same and of other indexes,
and the profiles of other indexes are the same. -/
theorem results_change_in_one_block (h : store.Reachable) (query : Text) :
    let results (s : Store) := (s.setQuery query).results
    let alone (index : Index) := (Query.read query).hits [index]
    (∀ fileName content,
      let key := store.keyFor fileName
      let after := store.ingest fileName content
      let index := Index.ofTable key fileName (Table.parse content)
      (IndexName.fold fileName ∉ store.indexes.keys.map Text.lower →
        Query.SplitAt key (results store) (alone index) [] (results after)) ∧
      (∀ old, store.indexes.get? key = some old → ∃ before later,
        Query.SplitAt key before (alone old) later (results store) ∧
        Query.SplitAt key before (alone index) later (results after)) ∧
      ∀ name, name ≠ key → after.profiles name = store.profiles name) ∧
    ∀ key,
      (∀ old, store.indexes.get? key = some old → ∃ before later,
        Query.SplitAt key before (alone old) later (results store) ∧
        results (store.remove key) = before ++ later) ∧
      (key ∉ store.indexes.keys → store.remove key = store) ∧
      ∀ name, name ≠ key → (store.remove key).profiles name = store.profiles name := by
  intro results alone
  have hwell : store.indexes.WellFormed := h.wellFormed
  constructor
  · intro fileName content key after index
    refine ⟨fun hfold => ?_, fun old hold => splitAt_ingest_of_loaded hwell hold content query,
      fun name hne => profiles_ingest_of_ne hwell hne content⟩
    have hnew : key ∉ store.indexes.keys := fun hmem =>
      hfold (lower_keyFor store fileName ▸ List.mem_map_of_mem hmem)
    exact splitAt_ingest_of_new hwell hnew content query
  · intro key
    exact ⟨fun old hold => splitAt_remove hwell hold query, remove_eq_self,
      fun name hne => profiles_remove_of_ne store hne⟩

/-- The first of two indexes is replaced by a file whose name has another casing, under a
query that names it in a third one. -/
theorem results_change_in_one_block_recased :
    let store := (empty 100).applyAll
      [.ingest "ab.csv".toList "x\n1\n2".toList, .ingest "b.csv".toList "x\n1".toList]
    let after := store.ingest "AB.CSV".toList "x\n31\n4\n10".toList
    store.Reachable ∧
      ∀ query ∈ ["1".toList, "Index=aB 1".toList], ∃ before later,
        Query.SplitAt "ab".toList before [⟨"ab".toList, [("x".toList, "1".toList)]⟩] later
          (store.setQuery query).results ∧
        Query.SplitAt "ab".toList before [⟨"ab".toList, [("x".toList, "31".toList)]⟩,
          ⟨"ab".toList, [("x".toList, "10".toList)]⟩] later (after.setQuery query).results := by
  intro store after
  have h : store.Reachable := ⟨100, _, rfl⟩
  refine ⟨h, fun query hquery => ?_⟩
  have hkey : store.keyFor "AB.CSV".toList = "ab".toList := by decide +kernel
  have hold : store.indexes.get? (store.keyFor "AB.CSV".toList)
      = some (.ofTable "ab".toList "ab.csv".toList (Table.parse "x\n1\n2".toList)) := by
    decide +kernel
  have hblocks : ∀ query ∈ ["1".toList, "Index=aB 1".toList],
      (Query.read query).hits
          [.ofTable "ab".toList "ab.csv".toList (Table.parse "x\n1\n2".toList)]
        = [⟨"ab".toList, [("x".toList, "1".toList)]⟩] ∧
      (Query.read query).hits
          [.ofTable "ab".toList "AB.CSV".toList (Table.parse "x\n31\n4\n10".toList)]
        = [⟨"ab".toList, [("x".toList, "31".toList)]⟩,
          ⟨"ab".toList, [("x".toList, "10".toList)]⟩] := by
    decide +kernel
  obtain ⟨before, later, hbefore, hafter⟩ :=
    ((results_change_in_one_block h query).1 "AB.CSV".toList "x\n31\n4\n10".toList).2.1 _ hold
  dsimp only at hbefore hafter
  rw [hkey, (hblocks query hquery).1] at hbefore
  rw [hkey, (hblocks query hquery).2] at hafter
  exact ⟨before, later, hbefore, hafter⟩

end Store

end ArtifactSearch
