import ArtifactSearch.Proofs.Store.Paging
import ArtifactSearch.Proofs.Store.Slots

/-!
# ArtifactSearch.Proofs.Store.Independence

**Ingests of different files do not see each other.** The key of a file depends on no loaded key
but that of its folded name (`keyFor_eq_of_mem`, `keyFor_eq_normalize`). A file of another folded
name brings no such key and changes nothing under one. So the key (`keyFor_ingest_of_ne`), what
is loaded under it, and whether the ingest counts (`revision_ingest_ingest`) are the same before
and after. The order of keys can differ, but only if both are put behind the loaded ones
(`Entries.put_comm_of_mem`).
-/

namespace ArtifactSearch.Store

attribute [ext] Store

variable {store : Store} {fileName otherName : Text}

/-! ### The key of a file -/

theorem keyFor_eq_normalize (h : IndexName.fold fileName ∉ store.indexes.keys.map Text.lower) :
    store.keyFor fileName = IndexName.normalize fileName := by
  rcases keyFor_cases store fileName with ⟨hmem, -⟩ | ⟨hname, -⟩
  · exact absurd ((keyFor_mem_keys_iff store fileName).mp hmem) h
  · exact hname

/-- Files of different folded names have different keys. -/
theorem keyFor_ne (hne : IndexName.fold fileName ≠ IndexName.fold otherName) (store : Store) :
    store.keyFor fileName ≠ store.keyFor otherName := by
  intro hsame
  apply hne
  rw [← lower_keyFor store, hsame, lower_keyFor]

/-! ### One ingest -/

/-- The entry of a file whose name is not loaded in any casing. -/
def newEntry (fileName content : Text) : Text × Index :=
  (IndexName.normalize fileName,
    .ofTable (IndexName.normalize fileName) fileName (Table.parse content))

/-- A file whose name is not loaded in any casing goes behind all others. -/
theorem indexes_ingest_of_new (h : store.indexes.WellFormed)
    (hnew : IndexName.fold fileName ∉ store.indexes.keys.map Text.lower) (content : Text) :
    (store.ingest fileName content).indexes = store.indexes ++ [newEntry fileName content] := by
  have hfresh : store.keyFor fileName ∉ store.indexes.keys := fun hmem =>
    hnew ((keyFor_mem_keys_iff store fileName).mp hmem)
  rw [indexes_ingest h, Entries.put_of_not_mem hfresh, keyFor_eq_normalize hnew, newEntry]

/-- No ingest brings a folded name but that of its file. -/
theorem fold_mem_ingest_iff (h : store.indexes.WellFormed)
    (hne : IndexName.fold fileName ≠ IndexName.fold otherName) (content : Text) :
    IndexName.fold otherName ∈ (store.ingest fileName content).indexes.keys.map Text.lower ↔
      IndexName.fold otherName ∈ store.indexes.keys.map Text.lower := by
  rw [indexes_ingest h, Entries.keys_put]
  split
  · rfl
  · rw [List.map_append, List.map_singleton, lower_keyFor, List.mem_append, List.mem_singleton,
      or_iff_left (Ne.symm hne)]

theorem query_ingest (store : Store) (fileName content : Text) :
    (store.ingest fileName content).query = store.query := by
  unfold ingest
  dsimp only
  split <;> rfl

theorem page_ingest (store : Store) (fileName content : Text) :
    (store.ingest fileName content).page = store.page := by
  unfold ingest
  dsimp only
  split <;> rfl

theorem pageSize_ingest (store : Store) (fileName content : Text) :
    (store.ingest fileName content).pageSize = store.pageSize :=
  pageSize_apply store (.ingest fileName content)

/-! ### Two ingests -/

/-- A file that was just ingested is not ingested again. -/
theorem ingest_ingest_self (h : store.indexes.WellFormed) (fileName content : Text) :
    (store.ingest fileName content).ingest fileName content = store.ingest fileName content := by
  rw [ingest_eq (wellFormed_ingest h fileName content)]
  exact if_pos (get?_keyFor_ingest h fileName content)

section Different

variable (h : store.indexes.WellFormed) (hne : IndexName.fold fileName ≠ IndexName.fold otherName)
include h hne

/-- Ingesting a file does not change the key of a file of another folded name. -/
theorem keyFor_ingest_of_ne (content : Text) :
    (store.ingest fileName content).keyFor otherName = store.keyFor otherName := by
  by_cases hloaded : IndexName.fold otherName ∈ store.indexes.keys.map Text.lower
  · exact keyFor_ingest_of_loaded h hloaded fileName content
  · have hnew := (fold_mem_ingest_iff h hne content).not.mpr hloaded
    rw [keyFor_eq_normalize hloaded, keyFor_eq_normalize hnew]

theorem indexes_ingest_ingest (content otherContent : Text) :
    ((store.ingest fileName content).ingest otherName otherContent).indexes
      = (store.indexes.put (store.keyFor fileName)
          (.ofTable (store.keyFor fileName) fileName (Table.parse content))).put
        (store.keyFor otherName)
          (.ofTable (store.keyFor otherName) otherName (Table.parse otherContent)) := by
  rw [indexes_ingest (wellFormed_ingest h fileName content), keyFor_ingest_of_ne h hne,
    indexes_ingest h]

/-- An ingest counts the same before and after that of a file of another folded name. -/
theorem revision_ingest_ingest (content otherContent : Text) :
    ((store.ingest fileName content).ingest otherName otherContent).revision + store.revision
      = (store.ingest fileName content).revision
        + (store.ingest otherName otherContent).revision := by
  have hkey := keyFor_ingest_of_ne h hne content
  have hloaded : (store.ingest fileName content).indexes.get? (store.keyFor otherName)
      = store.indexes.get? (store.keyFor otherName) := by
    rw [indexes_ingest h, Entries.get?_put, if_neg (keyFor_ne hne store)]
  rw [ingest_eq (wellFormed_ingest h fileName content), ingest_eq h otherName]
  dsimp only
  rw [hkey, hloaded]
  split
  · rfl
  · dsimp only
    omega

theorem revision_ingest_comm (content otherContent : Text) :
    ((store.ingest fileName content).ingest otherName otherContent).revision
      = ((store.ingest otherName otherContent).ingest fileName content).revision := by
  have hone := revision_ingest_ingest h hne content otherContent
  have hother := revision_ingest_ingest h hne.symm otherContent content
  omega

theorem get?_ingest_comm (content otherContent key : Text) :
    ((store.ingest fileName content).ingest otherName otherContent).indexes.get? key
      = ((store.ingest otherName otherContent).ingest fileName content).indexes.get? key := by
  have hkeys := keyFor_ne hne store
  rw [indexes_ingest_ingest h hne, indexes_ingest_ingest h hne.symm]
  simp only [Entries.get?_put]
  split
  · rename_i hkey
    rw [if_neg (hkey ▸ hkeys)]
  · rfl

/-- If the key of one of the files is loaded, they may be ingested in either order. -/
theorem ingest_comm_of_loaded
    (hloaded : IndexName.fold fileName ∈ store.indexes.keys.map Text.lower ∨
      IndexName.fold otherName ∈ store.indexes.keys.map Text.lower)
    (content otherContent : Text) :
    (store.ingest fileName content).ingest otherName otherContent
      = (store.ingest otherName otherContent).ingest fileName content := by
  have hkeys := keyFor_ne hne store
  refine Store.ext ?_ ?_ ?_ ?_ (revision_ingest_comm h hne content otherContent)
  · rw [indexes_ingest_ingest h hne, indexes_ingest_ingest h hne.symm]
    rw [← keyFor_mem_keys_iff, ← keyFor_mem_keys_iff] at hloaded
    rcases hloaded with hmem | hmem
    · exact Entries.put_comm_of_mem hkeys hmem _ _
    · exact (Entries.put_comm_of_mem hkeys.symm hmem _ _).symm
  · simp only [query_ingest]
  · simp only [page_ingest]
  · simp only [pageSize_ingest]

/-- If neither is loaded, they stand behind the loaded ones in the order of their ingests. -/
theorem indexes_ingest_ingest_of_new
    (hnew : IndexName.fold fileName ∉ store.indexes.keys.map Text.lower)
    (hnew' : IndexName.fold otherName ∉ store.indexes.keys.map Text.lower)
    (content otherContent : Text) :
    ((store.ingest fileName content).ingest otherName otherContent).indexes
      = store.indexes ++ [newEntry fileName content, newEntry otherName otherContent] := by
  have hafter := (fold_mem_ingest_iff h hne content).not.mpr hnew'
  rw [indexes_ingest_of_new (wellFormed_ingest h fileName content) hafter,
    indexes_ingest_of_new h hnew, List.append_assoc, List.singleton_append]

end Different

/-- **Ingests repeat without effect and commute.** Ingesting a file twice in a row leaves the
store that ingesting it once does. For files of different folded names it does not matter which
one is ingested first: every key leads to the same index, and the revision, the query and the
page are the same. If the name of one of the two is loaded in some casing, the stores are the
same; otherwise they differ in which of the two stands first behind the loaded indexes. -/
theorem ingest_ingest (h : store.Reachable) :
    (∀ fileName content, (store.ingest fileName content).ingest fileName content
      = store.ingest fileName content) ∧
    ∀ fileName content otherName otherContent,
      IndexName.fold fileName ≠ IndexName.fold otherName →
      let one := (store.ingest fileName content).ingest otherName otherContent
      let other := (store.ingest otherName otherContent).ingest fileName content
      let loaded := store.indexes.keys.map Text.lower
      let entry := newEntry fileName content
      let otherEntry := newEntry otherName otherContent
      (∀ key, one.indexes.get? key = other.indexes.get? key) ∧
      one.revision = other.revision ∧ one.query = other.query ∧ one.page = other.page ∧
      (IndexName.fold fileName ∈ loaded ∨ IndexName.fold otherName ∈ loaded → one = other) ∧
      (IndexName.fold fileName ∉ loaded → IndexName.fold otherName ∉ loaded →
        one.indexes = store.indexes ++ [entry, otherEntry] ∧
        other.indexes = store.indexes ++ [otherEntry, entry]) := by
  have hwell : store.indexes.WellFormed := h.wellFormed
  refine ⟨ingest_ingest_self hwell, fun fileName content otherName otherContent hne => ?_⟩
  intro one other loaded entry otherEntry
  refine ⟨get?_ingest_comm hwell hne content otherContent,
    revision_ingest_comm hwell hne content otherContent, ?_, ?_, fun hloaded => ?_,
    fun hnew hnew' => ⟨?_, ?_⟩⟩
  · simp only [one, other, query_ingest]
  · simp only [one, other, page_ingest]
  · exact ingest_comm_of_loaded hwell hne hloaded content otherContent
  · exact indexes_ingest_ingest_of_new hwell hne hnew hnew' content otherContent
  · exact indexes_ingest_ingest_of_new hwell hne.symm hnew' hnew otherContent content

/-- Of the two files, one replaces an index that was loaded in another casing; the other is a
known export and comes new. -/
theorem ingest_ingest_recased :
    let store := (empty 100).applyAll
      [.ingest "ab.csv".toList "x\n1".toList, .ingest "b.csv".toList "x\n2".toList,
        .setQuery "1".toList]
    let one := (store.ingest "A_B.CSV".toList "y\n3".toList).ingest
      "dns-cache.csv".toList "z\n4".toList
    let other := (store.ingest "dns-cache.csv".toList "z\n4".toList).ingest
      "A_B.CSV".toList "y\n3".toList
    store.Reachable ∧
      IndexName.fold "A_B.CSV".toList ≠ IndexName.fold "dns-cache.csv".toList ∧
      IndexName.fold "A_B.CSV".toList ∈ store.indexes.keys.map Text.lower ∧
      one = other ∧ one.indexes.keys = ["ab".toList, "b".toList, "DNSCache".toList] ∧
      one.revision = 4 ∧ one.ingest "dns-cache.csv".toList "z\n4".toList = one := by
  intro store one other
  have h : store.Reachable := ⟨100, _, rfl⟩
  have hne : IndexName.fold "A_B.CSV".toList ≠ IndexName.fold "dns-cache.csv".toList := by
    decide +kernel
  have hloaded : IndexName.fold "A_B.CSV".toList ∈ store.indexes.keys.map Text.lower := by
    decide +kernel
  have hafter : (store.ingest "A_B.CSV".toList "y\n3".toList).Reachable :=
    ⟨100, [.ingest "ab.csv".toList "x\n1".toList, .ingest "b.csv".toList "x\n2".toList,
      .setQuery "1".toList, .ingest "A_B.CSV".toList "y\n3".toList], rfl⟩
  obtain ⟨-, -, -, -, hsame, -⟩ :=
    (ingest_ingest h).2 _ "y\n3".toList _ "z\n4".toList hne
  refine ⟨h, hne, hloaded, hsame (.inl hloaded), ?_, ?_, (ingest_ingest hafter).1 _ _⟩
  · decide +kernel
  · decide +kernel

end ArtifactSearch.Store
