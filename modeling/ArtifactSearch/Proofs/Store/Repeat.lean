import ArtifactSearch.Proofs.Store.Independence
import ArtifactSearch.Proofs.Store.Intake

/-!
# ArtifactSearch.Proofs.Store.Repeat

**Files that are taken in once more.** Step by step this is not nothing: of files that share a
key, each replaces the one before again, and the revision rises. But a key, once a file is under
it, stays the key of that file (`keyFor_intake`). So both times the same indexes are put under
the same keys (`indexes_intake`), and the last one under each is there already
(`indexes_intake_again`).

The keys that are reported are told by the file names that the indexes keep: every index of a
store stands under the key of its file (`filed_applyAll`, `Placed.keys_eq`).
-/

namespace ArtifactSearch.Store

variable {store : Store} {texts : List (Text × Text)}

/-! ### What an intake leaves alone -/

theorem applyAll_intake_cons (store : Store) (fileName content : Text)
    (texts : List (Text × Text)) :
    store.applyAll (intake ((fileName, content) :: texts))
      = (store.ingest fileName content).applyAll (intake texts) := rfl

/-- Taking in files changes no more than the index map and the revision. -/
theorem applyAll_intake_eq (store : Store) (texts : List (Text × Text)) :
    let last := store.applyAll (intake texts)
    last = { store with indexes := last.indexes, revision := last.revision } := by
  induction texts generalizing store with
  | nil => rfl
  | cons text rest ih =>
      have hfirst : store.ingest text.1 text.2 = { store with
          indexes := (store.ingest text.1 text.2).indexes
          revision := (store.ingest text.1 text.2).revision } :=
        Store.ext rfl (query_ingest store _ _) (page_ingest store _ _) (pageSize_ingest store _ _)
          rfl
      dsimp only
      rw [applyAll_intake_cons, ih (store.ingest text.1 text.2), hfirst]

/-! ### Keys -/

/-- The key of a file depends on the index map alone. -/
theorem keyFor_congr {other : Store} (h : other.indexes = store.indexes) :
    other.keyFor = store.keyFor := by
  funext fileName
  rw [keyFor, keyFor, h]

/-- A file that was just ingested is loaded. -/
theorem fold_mem_ingest (h : store.indexes.WellFormed) (fileName content : Text) :
    IndexName.fold fileName ∈ (store.ingest fileName content).indexes.keys.map Text.lower := by
  rw [← keyFor_mem_keys_iff, keyFor_ingest h, ← Entries.get?_isSome, indexes_ingest h,
    Entries.get?_put, if_pos rfl]
  rfl

theorem fold_mem_ingest_of_mem (h : store.indexes.WellFormed) {fileName : Text}
    (hloaded : IndexName.fold fileName ∈ store.indexes.keys.map Text.lower)
    (otherName content : Text) :
    IndexName.fold fileName ∈ (store.ingest otherName content).indexes.keys.map Text.lower := by
  rw [indexes_ingest h, Entries.keys_put]
  split
  · exact hloaded
  · rw [List.map_append]
    exact List.mem_append_left _ hloaded

/-- Taking in files does not change the key of a file whose name is loaded. -/
theorem keyFor_intake (h : store.indexes.WellFormed) {fileName : Text}
    (hloaded : IndexName.fold fileName ∈ store.indexes.keys.map Text.lower)
    (texts : List (Text × Text)) :
    (store.applyAll (intake texts)).keyFor fileName = store.keyFor fileName := by
  induction texts generalizing store with
  | nil => rfl
  | cons text rest ih =>
      rw [applyAll_intake_cons, ih (wellFormed_ingest h _ _) (fold_mem_ingest_of_mem h hloaded _ _),
        keyFor_ingest_of_loaded h hloaded]

/-- The key of a file once it is taken in is its key in the end. -/
theorem keyFor_intake_ingest (h : store.indexes.WellFormed) (fileName content : Text)
    (texts : List (Text × Text)) :
    ((store.ingest fileName content).applyAll (intake texts)).keyFor fileName
      = (store.ingest fileName content).keyFor fileName :=
  keyFor_intake (wellFormed_ingest h _ _) (fold_mem_ingest h _ _) texts

/-- What was loaded and what is taken in is loaded in the end. -/
theorem fold_mem_intake (h : store.indexes.WellFormed) {fileName : Text}
    (hname : IndexName.fold fileName ∈ store.indexes.keys.map Text.lower ∨
      fileName ∈ texts.map Prod.fst) :
    IndexName.fold fileName
      ∈ (store.applyAll (intake texts)).indexes.keys.map Text.lower := by
  induction texts generalizing store with
  | nil => exact hname.resolve_right (List.not_mem_nil)
  | cons text rest ih =>
      rw [applyAll_intake_cons]
      refine ih (wellFormed_ingest h _ _) ?_
      rcases hname with hloaded | hmem
      · exact .inl (fold_mem_ingest_of_mem h hloaded _ _)
      · rcases List.mem_cons.mp hmem with rfl | hrest
        · exact .inl (fold_mem_ingest h _ _)
        · exact .inr hrest

/-! ### The index map -/

/-- What files are put under the keys that a store has for them. -/
def entriesFor (store : Store) (texts : List (Text × Text)) : List (Text × Index) :=
  texts.map fun text =>
    (store.keyFor text.1, .ofTable (store.keyFor text.1) text.1 (Table.parse text.2))

/-- All files are put under the keys that they have in the end. -/
theorem indexes_intake (h : store.indexes.WellFormed) (texts : List (Text × Text)) :
    let last := store.applyAll (intake texts)
    last.indexes = (last.entriesFor texts).foldl (fun m entry => m.put entry.1 entry.2)
      store.indexes := by
  induction texts generalizing store with
  | nil => rfl
  | cons text rest ih =>
      obtain ⟨fileName, content⟩ := text
      have hkey := (keyFor_intake_ingest h fileName content rest).trans
        (keyFor_ingest h fileName content)
      have hrest := ih (wellFormed_ingest h fileName content)
      dsimp only at hrest ⊢
      rw [applyAll_intake_cons, entriesFor, List.map_cons, List.foldl_cons]
      rw [hkey, ← indexes_ingest h]
      exact hrest

/-- Taking in the same files once more leaves the index map as it is. -/
theorem indexes_intake_again (h : store.indexes.WellFormed) (texts : List (Text × Text)) :
    let last := store.applyAll (intake texts)
    (last.applyAll (intake texts)).indexes = last.indexes := by
  intro last
  have hlast : last.indexes.WellFormed := wellFormed_applyAll h _
  have hentries : (last.applyAll (intake texts)).entriesFor texts = last.entriesFor texts := by
    refine List.map_congr_left fun text hmem => ?_
    rw [keyFor_intake hlast (fold_mem_intake h (.inr (List.mem_map_of_mem hmem)))]
  have honce : last.indexes = (last.entriesFor texts).foldl (fun m entry => m.put entry.1 entry.2)
      store.indexes := indexes_intake h texts
  have hagain := indexes_intake hlast texts
  dsimp only at hagain
  rw [hagain, hentries, honce]
  exact Entries.foldl_put_foldl_put h.nodup_keys _

/-! ### The keys of files -/

/-- Every index stands under the key of its file. -/
def Filed (indexes : IndexMap) : Prop :=
  ∀ entry ∈ indexes, Text.lower entry.1 = IndexName.fold entry.2.fileName

theorem filed_apply (h : store.indexes.WellFormed) (hfiled : Filed store.indexes)
    (change : Change) : Filed (store.apply change).indexes := by
  cases change with
  | ingest fileName content =>
      rw [apply, indexes_ingest h]
      intro entry hmem
      rcases Entries.mem_put hmem with ⟨hkey, hindex⟩ | hold
      · rw [hkey, hindex]
        exact lower_keyFor store fileName
      · exact hfiled entry hold
  | remove key =>
      rw [apply, indexes_remove]
      exact fun entry hmem => hfiled entry (List.mem_filter.mp hmem).1
  | clear => exact fun _ hmem => absurd hmem List.not_mem_nil
  | setQuery query => exact hfiled
  | setPage page => exact hfiled

theorem filed_applyAll (h : store.indexes.WellFormed) (hfiled : Filed store.indexes)
    (changes : List Change) : Filed (store.applyAll changes).indexes := by
  induction changes generalizing store with
  | nil => exact hfiled
  | cons change rest ih => exact ih (wellFormed_apply h change) (filed_apply h hfiled change)

theorem Reachable.filed (h : store.Reachable) : Filed store.indexes := by
  obtain ⟨pageSize, changes, rfl⟩ := h
  exact filed_applyAll IndexMap.wellFormed_nil (fun _ hmem => absurd hmem List.not_mem_nil) changes

/-- The keys of files that were taken in are those that they have in the end. -/
theorem Placed.keys_eq {keys : List Text} (hplaced : Placed store texts keys)
    (h : store.indexes.WellFormed) (hfiled : Filed store.indexes) :
    keys = texts.map fun text => (store.applyAll (intake texts)).keyFor text.1 := by
  induction hplaced with
  | nil store => rfl
  | @cons store fileName content key rest keys hget _ ih =>
      have hafter := wellFormed_ingest h fileName content
      have hfiledAfter : Filed (store.ingest fileName content).indexes :=
        filed_apply h hfiled (.ingest fileName content)
      have hkey : (store.ingest fileName content).keyFor fileName = key :=
        keyFor_eq_of_mem hafter
          ((Entries.get?_isSome _ _).mp (Option.isSome_of_eq_some hget))
          (hfiledAfter _ (Entries.mem_of_get? hget))
      rw [List.map_cons, applyAll_intake_cons, keyFor_intake_ingest h, hkey,
        ← ih hafter hfiledAfter]

end ArtifactSearch.Store
