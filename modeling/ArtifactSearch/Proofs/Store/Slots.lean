import ArtifactSearch.Proofs.Store.Invariant

/-!
# ArtifactSearch.Proofs.Store.Slots

**A store as a list of slots.** A slot is known by a folded name. It keeps the
display name it was made with, and holds the table of the last file whose name
folds to it. There is no lookup in two steps here and no revision: a file either
overwrites its slot in place or appends one.

`indexMap_ingest` and `indexMap_remove` say that one change of a well-formed
index map is the same change of its slots, and `indexMap_foldl` that so are all
histories. What ties the two together is `Agrees`: the folded name of a slot is
its display name in lower case, so that under a well-formed map exactly one key
can belong to a slot.
-/

namespace ArtifactSearch

/-- A place for the files whose names fold alike. -/
structure Slot where
  /-- What the slot is known by. -/
  fold : Text
  /-- The name it shows, in the casing it was made with. -/
  name : Text
  /-- The table of the last file. -/
  table : Table
  /-- The name of the last file. -/
  fileName : Text
  deriving Repr, DecidableEq

namespace Slot

/-! ### The reference -/

/-- A file goes into the slot its name folds to: in place if there is one, else
into a new one at the end. -/
def ingest (fileName content : Text) : List Slot → List Slot
  | [] =>
    [⟨IndexName.fold fileName, IndexName.normalize fileName, Table.parse content, fileName⟩]
  | slot :: rest =>
    if slot.fold = IndexName.fold fileName then
      { slot with table := Table.parse content, fileName := fileName } :: rest
    else slot :: ingest fileName content rest

/-- The slots without the one that shows `name`. -/
def remove (name : Text) (slots : List Slot) : List Slot :=
  slots.filter (fun slot => slot.name ≠ name)

/-- The slots after a change. Queries and pages are not theirs. -/
def apply (slots : List Slot) : Store.Change → List Slot
  | .ingest fileName content => ingest fileName content slots
  | .remove name => remove name slots
  | .clear => []
  | .setQuery _ => slots
  | .setPage _ => slots

/-- The slots after changes, one after another, from none. -/
def replay (changes : List Store.Change) : List Slot := changes.foldl apply []

/-- The index a slot stands for, under its display name. -/
def entry (slot : Slot) : Text × Index :=
  (slot.name, ⟨slot.name, slot.table.columns, slot.table.records, slot.fileName⟩)

/-- The index map that slots stand for. -/
def indexMap (slots : List Slot) : IndexMap := slots.map entry

/-! ### Slots and keys -/

/-- Every slot is known by its display name in lower case. -/
def Agrees (slots : List Slot) : Prop := ∀ slot ∈ slots, slot.fold = Text.lower slot.name

theorem keys_indexMap (slots : List Slot) : (indexMap slots).keys = slots.map Slot.name := by
  rw [Entries.keys, indexMap, List.map_map]
  rfl

theorem name_mem_keys {slots : List Slot} {slot : Slot} (h : slot ∈ slots) :
    slot.name ∈ (indexMap slots).keys := by
  rw [keys_indexMap]
  exact List.mem_map_of_mem h

theorem agrees_ingest {slots : List Slot} (h : Agrees slots) (fileName content : Text) :
    Agrees (ingest fileName content slots) := by
  induction slots with
  | nil => simp [Agrees, ingest, IndexName.lower_normalize]
  | cons slot rest ih =>
      obtain ⟨hslot, hrest⟩ := List.forall_mem_cons.mp h
      unfold ingest
      split
      · exact List.forall_mem_cons.mpr ⟨hslot, hrest⟩
      · exact List.forall_mem_cons.mpr ⟨hslot, ih hrest⟩

theorem agrees_apply {slots : List Slot} (h : Agrees slots) (change : Store.Change) :
    Agrees (apply slots change) := by
  cases change with
  | ingest fileName content => exact agrees_ingest h fileName content
  | remove name => exact fun slot hslot => h slot (List.mem_filter.mp hslot).1
  | clear => simp [Agrees, apply]
  | setQuery query => exact h
  | setPage page => exact h

/-! ### One change -/

/-- Putting an index under a key that belongs to the file's slot, and to no
other, is ingesting the file into the slots. -/
theorem put_indexMap {fileName content key : Text} {slots : List Slot}
    (hkey : ∀ slot ∈ slots, slot.fold = IndexName.fold fileName ↔ slot.name = key)
    (hnew : (∀ slot ∈ slots, slot.name ≠ key) → key = IndexName.normalize fileName) :
    (indexMap slots).put key (.ofTable key fileName (Table.parse content))
      = indexMap (ingest fileName content slots) := by
  -- Both sides walk down the list and stop at the same slot, if at any.
  induction slots with
  | nil =>
      rw [hnew (by simp)]
      rfl
  | cons slot rest ih =>
      obtain ⟨hslot, hrest⟩ := List.forall_mem_cons.mp hkey
      by_cases hname : slot.name = key
      · rw [ingest, if_pos (hslot.mpr hname)]
        simp [indexMap, entry, Entries.put, Index.ofTable, hname]
      · have hne : slot.fold ≠ IndexName.fold fileName := fun hfold => hname (hslot.mp hfold)
        have htail := ih hrest fun hnone => hnew (List.forall_mem_cons.mpr ⟨hname, hnone⟩)
        rw [ingest, if_neg hne]
        simp only [indexMap, List.map_cons, entry, Entries.put, hname, if_false] at htail ⊢
        rw [htail]

variable {store : Store} {slots : List Slot}

theorem indexMap_ingest (hwf : store.indexes.WellFormed) (hagrees : Agrees slots)
    (hslots : store.indexes = indexMap slots) (fileName content : Text) :
    (store.ingest fileName content).indexes = indexMap (ingest fileName content slots) := by
  have hlower := Store.lower_keyFor store fileName
  rw [Store.indexes_ingest hwf, hslots]
  refine put_indexMap (fun slot hslot => ?_) (fun hnone => ?_)
  · have hmem : slot.name ∈ store.indexes.keys := hslots ▸ name_mem_keys hslot
    rw [hagrees slot hslot]
    exact ⟨fun hfold => (Store.keyFor_eq_of_mem hwf hmem hfold).symm,
      fun hname => by rw [hname, hlower]⟩
  · rcases Store.keyFor_cases store fileName with ⟨hloaded, -⟩ | ⟨hname, -⟩
    · rw [hslots, keys_indexMap] at hloaded
      -- A loaded key is the name of some slot.
      obtain ⟨slot, hslot, hname⟩ := List.mem_map.mp hloaded
      exact absurd hname (hnone slot hslot)
    · exact hname

theorem indexMap_remove (name : Text) :
    (indexMap slots).erase name = indexMap (remove name slots) := by
  rw [indexMap, indexMap, Entries.erase, remove, List.filter_map]
  rfl

/-- One change of the store is the same change of its slots. -/
theorem indexMap_apply (hwf : store.indexes.WellFormed) (hagrees : Agrees slots)
    (hslots : store.indexes = indexMap slots) (change : Store.Change) :
    (store.apply change).indexes = indexMap (apply slots change) := by
  cases change with
  | ingest fileName content => exact indexMap_ingest hwf hagrees hslots fileName content
  | remove name => rw [Store.apply, Store.indexes_remove, hslots, indexMap_remove, apply]
  | clear => rfl
  | setQuery query => exact hslots
  | setPage page => exact hslots

/-! ### Every history -/

theorem indexMap_foldl (hwf : store.indexes.WellFormed) (hagrees : Agrees slots)
    (hslots : store.indexes = indexMap slots) (changes : List Store.Change) :
    (store.applyAll changes).indexes = indexMap (changes.foldl apply slots) := by
  induction changes generalizing store slots with
  | nil => exact hslots
  | cons change rest ih =>
      exact ih (Store.wellFormed_apply hwf change) (agrees_apply hagrees change)
        (indexMap_apply hwf hagrees hslots change)

end Slot

namespace Store

/-- Ingesting a file does not change the key that its name stands for. -/
theorem keyFor_ingest {store : Store} (h : store.indexes.WellFormed) (fileName content : Text) :
    (store.ingest fileName content).keyFor fileName = store.keyFor fileName := by
  have hmem : store.keyFor fileName ∈ (store.ingest fileName content).indexes.keys := by
    rw [← Entries.get?_isSome, indexes_ingest h, Entries.get?_put, if_pos rfl]
    rfl
  exact keyFor_eq_of_mem (wellFormed_ingest h fileName content) hmem (lower_keyFor store fileName)

/-- Ingesting any file does not change the key of a file whose name is loaded. -/
theorem keyFor_ingest_of_loaded {store : Store} (h : store.indexes.WellFormed) {fileName : Text}
    (hloaded : IndexName.fold fileName ∈ store.indexes.keys.map Text.lower)
    (otherName content : Text) :
    (store.ingest otherName content).keyFor fileName = store.keyFor fileName := by
  have hmem := (keyFor_mem_keys_iff store fileName).mpr hloaded
  refine keyFor_eq_of_mem (wellFormed_ingest h otherName content) ?_ (lower_keyFor store fileName)
  rw [indexes_ingest h, Entries.keys_put]
  split
  · exact hmem
  · exact List.mem_append_left _ hmem

/-- The key of a file that was just ingested leads to its table. -/
theorem get?_keyFor_ingest {store : Store} (h : store.indexes.WellFormed)
    (fileName content : Text) :
    let after := store.ingest fileName content
    after.indexes.get? (after.keyFor fileName)
      = some (.ofTable (after.keyFor fileName) fileName (Table.parse content)) := by
  intro after
  rw [keyFor_ingest h, indexes_ingest h, Entries.get?_put, if_pos rfl]

/-- **Every history of a store is a history of slots**: the index map is the one
the slots stand for, with its keys, their order and casing, and all contents. And
whatever the history, the key of a file that was just ingested is loaded and holds
exactly its table and file name. -/
theorem applyAll_refines_slots (pageSize : Int) (changes : List Change) :
    let store := (empty pageSize).applyAll changes
    store.indexes = Slot.indexMap (Slot.replay changes) ∧
    ∀ fileName content,
      let after := store.ingest fileName content
      let table := Table.parse content
      after.indexes.get? (after.keyFor fileName)
        = some ⟨after.keyFor fileName, table.columns, table.records, fileName⟩ := by
  intro store
  have hnone : IndexMap.WellFormed (empty pageSize).indexes := IndexMap.wellFormed_nil
  refine ⟨Slot.indexMap_foldl hnone (by simp [Slot.Agrees]) rfl changes, ?_⟩
  intro fileName content
  exact get?_keyFor_ingest (wellFormed_applyAll hnone changes) fileName content

end Store

end ArtifactSearch
