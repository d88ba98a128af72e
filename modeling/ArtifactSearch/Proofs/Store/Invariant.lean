import ArtifactSearch.Proofs.IndexName
import ArtifactSearch.Proofs.Table
import ArtifactSearch.Store.Basic
import Mathlib.Data.List.Nodup

/-!
# ArtifactSearch.Proofs.Store.Invariant

**What every store is like**, whatever files went in and out of it in whatever
order.

Only the index map matters: `IndexMap.WellFormed` is kept by putting a
well-formed table under a key that is loaded already or agrees with no loaded one
ignoring case, and by erasing. Each change of a store does one of the two or
neither (`indexes_ingest`, `indexes_remove`), and `keyFor` only ever gives such
keys (`keyFor_cases`). This is where uniqueness ignoring case comes from: the
map itself compares keys exactly.

Indexes are compared with no regard to the order of the keys in a record. On
well-formed tables that is equality (`Index.alike_iff`), because there the columns
fix this order.
-/

namespace ArtifactSearch

/-- The table of an index. -/
def Index.table (index : Index) : Table := ⟨index.columns, index.records⟩

namespace Index

theorem alike_iff {a b : Index} (ha : a.table.WellFormed) (hb : b.table.WellFormed) :
    a.alike b = true ↔ a = b := by
  have hnodup : ∀ record ∈ a.records, record.keys.Nodup := fun record hrecord =>
    ha.keys record hrecord ▸ ha.nodup
  constructor
  · intro h
    simp only [alike, Bool.and_eq_true, decide_eq_true_eq, List.all_eq_true] at h
    obtain ⟨⟨⟨⟨hname, hcolumns⟩, hfile⟩, hlength⟩, hrecords⟩ := h
    have hsame : a.records = b.records := by
      refine List.ext_getElem hlength fun i hi hj => ?_
      have hkeys : a.records[i].keys = b.records[i].keys := by
        rw [ha.keys _ (List.getElem_mem hi), hb.keys _ (List.getElem_mem hj)]
        exact hcolumns
      have hpair : (a.records[i], b.records[i]) ∈ a.records.zip b.records :=
        List.mem_iff_getElem.mpr ⟨i, by rw [List.length_zip]; omega, List.getElem_zip⟩
      exact Entries.eq_of_alike (hnodup _ (List.getElem_mem hi)) hkeys (hrecords _ hpair)
    cases a
    cases b
    cases hname
    cases hcolumns
    cases hfile
    cases hsame
    rfl
  · rintro rfl
    simp only [alike, decide_true, Bool.and_self, Bool.true_and, List.all_eq_true]
    intro pair hpair
    obtain ⟨i, hi, rfl⟩ := List.mem_iff_getElem.mp hpair
    rw [List.getElem_zip]
    exact Entries.alike_self (hnodup _ (List.getElem_mem _))

end Index

/-! ### Well-formed index maps -/

/-- The shape of the index map of a store. -/
structure IndexMap.WellFormed (m : IndexMap) : Prop where
  /-- Every index stands under its own name. -/
  name : ∀ key index, (key, index) ∈ m → index.name = key
  /-- Keys have ASCII letters and digits only. -/
  alphanumeric : ∀ key ∈ m.keys, ∀ c ∈ key, Text.isAlphanumeric c = true
  /-- No two keys agree ignoring case. -/
  distinct : (m.keys.map Text.lower).Nodup
  /-- The tables are as the parser makes them. -/
  table : ∀ key index, (key, index) ∈ m → index.table.WellFormed

namespace IndexMap

variable {m : IndexMap}

theorem wellFormed_nil : WellFormed [] := ⟨by simp, by simp, by simp, by simp⟩

theorem WellFormed.nodup_keys (h : WellFormed m) : m.keys.Nodup := List.Nodup.of_map _ h.distinct

/-- Loaded keys that agree ignoring case are the same. -/
theorem WellFormed.eq_of_lower_eq (h : WellFormed m) {a b : Text} (ha : a ∈ m.keys)
    (hb : b ∈ m.keys) (hab : Text.lower a = Text.lower b) : a = b :=
  List.inj_on_of_nodup_map h.distinct ha hb hab

theorem WellFormed.put (h : WellFormed m) (index : Index)
    (halphanumeric : ∀ c ∈ index.name, Text.isAlphanumeric c = true)
    (htable : index.table.WellFormed)
    (hkey : index.name ∈ m.keys ∨ ∀ key ∈ m.keys, Text.lower key ≠ Text.lower index.name) :
    WellFormed (Entries.put m index.name index) where
  name key other hmem := by
    rcases Entries.mem_put hmem with ⟨rfl, rfl⟩ | hold
    · rfl
    · exact h.name key other hold
  alphanumeric key hmem := by
    rw [Entries.keys_put] at hmem
    split at hmem
    · exact h.alphanumeric key hmem
    · rcases List.mem_append.mp hmem with hold | hnew
      · exact h.alphanumeric key hold
      · exact List.mem_singleton.mp hnew ▸ halphanumeric
  distinct := by
    rw [Entries.keys_put]
    split
    · exact h.distinct
    · rename_i hfresh
      -- A key that is not loaded agrees with no loaded one.
      have hne := hkey.resolve_left hfresh
      rw [List.map_append, List.nodup_append]
      refine ⟨h.distinct, by simp, ?_⟩
      intro a ha b hb
      obtain ⟨key, hmem, rfl⟩ := List.mem_map.mp ha
      rw [List.map_singleton, List.mem_singleton] at hb
      exact hb ▸ hne key hmem
  table key other hmem := by
    rcases Entries.mem_put hmem with ⟨-, rfl⟩ | hold
    · exact htable
    · exact h.table key other hold

theorem WellFormed.erase (h : WellFormed m) (key : Text) : WellFormed (Entries.erase m key) := by
  have hsub : List.Sublist (Entries.erase m key) m := List.filter_sublist
  have hkeys : List.Sublist (Entries.keys (Entries.erase m key)) m.keys := hsub.map Prod.fst
  exact {
    name := fun k index hmem => h.name k index (hsub.subset hmem)
    alphanumeric := fun k hmem => h.alphanumeric k (hkeys.subset hmem)
    distinct := h.distinct.sublist (hkeys.map Text.lower)
    table := fun k index hmem => h.table k index (hsub.subset hmem) }

theorem WellFormed.table_of_mem_values (h : WellFormed m) {index : Index}
    (hmem : index ∈ m.values) : index.table.WellFormed := by
  obtain ⟨entry, hentry, rfl⟩ := List.mem_map.mp hmem
  exact h.table entry.1 entry.2 hentry

theorem WellFormed.get?_name (h : WellFormed m) {index : Index} (hmem : index ∈ m.values) :
    Entries.get? m index.name = some index := by
  obtain ⟨entry, hentry, rfl⟩ := List.mem_map.mp hmem
  rw [h.name entry.1 entry.2 hentry, Entries.get?_eq_some_iff h.nodup_keys]
  exact hentry

/-- An index of a well-formed map stands under its name, and no other key agrees with
that ignoring case. -/
theorem WellFormed.exists_split (h : WellFormed m) {index : Index} (hmem : index ∈ m.values) :
    ∃ before after, m = before ++ (index.name, index) :: after ∧
      ∀ key ∈ Entries.keys (before ++ after), Text.lower key ≠ Text.lower index.name := by
  obtain ⟨⟨key, value⟩, hentry, rfl⟩ := List.mem_map.mp hmem
  obtain ⟨before, after, hsplit⟩ := List.mem_iff_append.mp hentry
  have hkey : value.name = key := h.name key value hentry
  have hdistinct := h.distinct
  rw [hsplit, Entries.keys, List.map_append, List.map_append, List.map_cons, List.map_cons,
    List.nodup_middle, List.nodup_cons, ← List.map_append, ← List.map_append] at hdistinct
  refine ⟨before, after, hkey ▸ hsplit, fun other hother hsame => ?_⟩
  exact hdistinct.1 (List.mem_map.mpr ⟨other, hother, hsame.trans (congrArg Text.lower hkey)⟩)

end IndexMap

namespace Store

/-! ### The index map after a change -/

/-- Ingesting changes nothing only if the very index that the file makes is loaded
under its key. -/
theorem ingest_eq {store : Store} (h : store.indexes.WellFormed) (fileName content : Text) :
    store.ingest fileName content =
      let key := store.keyFor fileName
      let index := Index.ofTable key fileName (Table.parse content)
      if store.indexes.get? key = some index then store
      else { store with indexes := store.indexes.put key index, revision := store.revision + 1 } := by
  unfold ingest
  dsimp only
  have hnew : (Index.ofTable (store.keyFor fileName) fileName (Table.parse content)).table.WellFormed :=
    Table.wellFormed_parse content
  cases hget : store.indexes.get? (store.keyFor fileName) with
  | none => rfl
  | some old =>
      have hold : old.table.WellFormed := h.table _ _ (Entries.mem_of_get? hget)
      simp only [Option.any_some, Index.alike_iff hnew hold, Option.some.injEq, eq_comm]

/-- Ingesting puts the file's table under its key, also where that changes
nothing. -/
theorem indexes_ingest {store : Store} (h : store.indexes.WellFormed) (fileName content : Text) :
    (store.ingest fileName content).indexes
      = store.indexes.put (store.keyFor fileName)
          (.ofTable (store.keyFor fileName) fileName (Table.parse content)) := by
  rw [ingest_eq h]
  dsimp only
  split
  · rename_i hsame
    exact (Entries.put_eq_self hsame).symm
  · rfl

/-- Removing erases the key, also where it is not loaded. -/
@[simp] theorem indexes_remove (store : Store) (key : Text) :
    (store.remove key).indexes = store.indexes.erase key := by
  unfold remove
  split
  · rfl
  · rename_i habsent
    rw [Entries.contains_iff] at habsent
    exact (Entries.erase_eq_self habsent).symm

@[simp] theorem indexes_clear (store : Store) : store.clear.indexes = [] := rfl

@[simp] theorem indexes_setQuery (store : Store) (query : Text) :
    (store.setQuery query).indexes = store.indexes := rfl

@[simp] theorem indexes_setPage (store : Store) (page : Int) :
    (store.setPage page).indexes = store.indexes := rfl

theorem profiles_name {store : Store} (h : store.indexes.WellFormed) {index : Index}
    (hindex : index ∈ store.indexes.values) :
    store.profiles index.name
      = Profile.ofRecords Profile.defaultLimit index.columns index.records := by
  rw [profiles, h.get?_name hindex]

/-! ### The key of a file -/

/-- A file goes under a loaded key that agrees with its name ignoring case; if
there is none, under its name. -/
theorem keyFor_cases (store : Store) (fileName : Text) :
    (store.keyFor fileName ∈ store.indexes.keys ∧
        Text.lower (store.keyFor fileName) = IndexName.fold fileName) ∨
      (store.keyFor fileName = IndexName.normalize fileName ∧
        ∀ key ∈ store.indexes.keys, Text.lower key ≠ IndexName.fold fileName) := by
  have hfold := IndexName.lower_normalize fileName
  unfold keyFor
  dsimp only
  split
  · rename_i hloaded
    exact .inl ⟨Entries.contains_iff.mp hloaded, hfold⟩
  · rw [hfold]
    cases hfind : store.indexes.keys.find? (fun key => Text.lower key = IndexName.fold fileName) with
    | some key =>
        have hlower := List.find?_some hfind
        exact .inl ⟨List.mem_of_find?_eq_some hfind, by simpa using hlower⟩
    | none =>
        rw [List.find?_eq_none] at hfind
        exact .inr ⟨rfl, fun key hmem hkey => hfind key hmem (by simpa using hkey)⟩

theorem lower_keyFor (store : Store) (fileName : Text) :
    Text.lower (store.keyFor fileName) = IndexName.fold fileName := by
  rcases keyFor_cases store fileName with ⟨-, hlower⟩ | ⟨hname, -⟩
  · exact hlower
  · rw [hname, IndexName.lower_normalize]

/-- A loaded key that agrees with the name of a file ignoring case is the file's. -/
theorem keyFor_eq_of_mem {store : Store} (h : store.indexes.WellFormed) {fileName key : Text}
    (hloaded : key ∈ store.indexes.keys) (hfold : Text.lower key = IndexName.fold fileName) :
    store.keyFor fileName = key := by
  rcases keyFor_cases store fileName with ⟨hmem, hlower⟩ | ⟨-, hfresh⟩
  · exact h.eq_of_lower_eq hmem hloaded (hlower.trans hfold.symm)
  · exact absurd hfold (hfresh key hloaded)

theorem keyFor_mem_keys_iff (store : Store) (fileName : Text) :
    store.keyFor fileName ∈ store.indexes.keys ↔
      IndexName.fold fileName ∈ store.indexes.keys.map Text.lower := by
  constructor
  · intro hmem
    exact lower_keyFor store fileName ▸ List.mem_map_of_mem hmem
  · intro hfold
    rcases keyFor_cases store fileName with ⟨hmem, -⟩ | ⟨-, hfresh⟩
    · exact hmem
    · obtain ⟨key, hmem, hkey⟩ := List.mem_map.mp hfold
      exact absurd hkey (hfresh key hmem)

theorem isAlphanumeric_of_mem_keyFor {store : Store} (h : store.indexes.WellFormed)
    {fileName : Text} : ∀ c ∈ store.keyFor fileName, Text.isAlphanumeric c = true := by
  rcases keyFor_cases store fileName with ⟨hloaded, -⟩ | ⟨hname, -⟩
  · exact h.alphanumeric _ hloaded
  · rw [hname]
    exact fun c hc => IndexName.isAlphanumeric_of_mem_normalize hc

/-! ### Every history -/

theorem wellFormed_ingest {store : Store} (h : store.indexes.WellFormed)
    (fileName content : Text) : (store.ingest fileName content).indexes.WellFormed := by
  rw [indexes_ingest h]
  refine h.put (.ofTable _ fileName (Table.parse content))
    (isAlphanumeric_of_mem_keyFor h) (Table.wellFormed_parse content) ?_
  rcases keyFor_cases store fileName with ⟨hloaded, -⟩ | ⟨-, hfresh⟩
  · exact .inl hloaded
  · right
    intro key hmem
    show Text.lower key ≠ Text.lower (store.keyFor fileName)
    rw [lower_keyFor]
    exact hfresh key hmem

/-- One change keeps the index map well-formed. -/
theorem wellFormed_apply {store : Store} (h : store.indexes.WellFormed) (change : Change) :
    (store.apply change).indexes.WellFormed := by
  cases change with
  | ingest fileName content => exact wellFormed_ingest h fileName content
  | remove key =>
      rw [apply, indexes_remove]
      exact h.erase key
  | clear =>
      rw [apply, indexes_clear]
      exact IndexMap.wellFormed_nil
  | setQuery query => rwa [apply, indexes_setQuery]
  | setPage page => rwa [apply, indexes_setPage]

theorem wellFormed_applyAll {store : Store} (h : store.indexes.WellFormed)
    (changes : List Change) : (store.applyAll changes).indexes.WellFormed := by
  induction changes generalizing store with
  | nil => exact h
  | cons change rest ih => exact ih (wellFormed_apply h change)

/-- The stores that some history leads to from a store without indexes. -/
def Reachable (store : Store) : Prop :=
  ∃ (pageSize : Int) (changes : List Change), store = (empty pageSize).applyAll changes

theorem Reachable.wellFormed {store : Store} (h : store.Reachable) :
    store.indexes.WellFormed := by
  obtain ⟨pageSize, changes, rfl⟩ := h
  exact wellFormed_applyAll IndexMap.wellFormed_nil changes

/-- **Every history of a store keeps its shape.** Indexes stand under their own
names, which are ASCII letters and digits and differ in more than case. Each has
distinct columns, and these, in their order, are the keys of each of its records.
Column names and values are trimmed and on one line. An index without columns has
no records. -/
theorem shape_applyAll (pageSize : Int) (changes : List Change) :
    let store := (empty pageSize).applyAll changes
    (∀ key index, (key, index) ∈ store.indexes →
      key = index.name ∧ ∀ c ∈ key, Text.isAlphanumeric c = true) ∧
    store.indexes.keys.Pairwise (fun a b => Text.lower a ≠ Text.lower b) ∧
    ∀ index ∈ store.indexes.values,
      index.columns.Nodup ∧
      (∀ record ∈ index.records, record.keys = index.columns) ∧
      (∀ column ∈ index.columns, Csv.IsCell column) ∧
      (∀ record ∈ index.records, ∀ value ∈ record.values, Csv.IsCell value) ∧
      (index.columns = [] → index.records = []) := by
  intro store
  have h : store.indexes.WellFormed := wellFormed_applyAll IndexMap.wellFormed_nil changes
  refine ⟨?_, List.pairwise_map.mp h.distinct, ?_⟩
  · intro key index hmem
    have hkey : key ∈ store.indexes.keys := List.mem_map.mpr ⟨_, hmem, rfl⟩
    exact ⟨(h.name key index hmem).symm, h.alphanumeric key hkey⟩
  · intro index hmem
    have htable := h.table_of_mem_values hmem
    exact ⟨htable.nodup, htable.keys, htable.columnCells, htable.valueCells, htable.bare⟩

end Store

end ArtifactSearch
