import ArtifactSearch.Text.Basic

/-!
# ArtifactSearch.Entries

**Keyed entries in the order of first insertion.** Records, the index map and
the table of known names are all of this form.

* `put` replaces the value under a key at its old place, or appends.
* `get?` reads a key back: `get?_put` is the one equation a caller needs.
* `erase` drops a key.
* `alike` compares entries as tables of values, whatever their order.

Every list of entries built by these operations has each key once
(`nodup_keys_put`, `nodup_keys_ofList`).
-/

namespace ArtifactSearch

/-- Values under keys, in the order in which the keys first came. -/
abbrev Entries (α : Type) := List (Text × α)

namespace Entries

variable {α : Type}

/-- The keys, in order. -/
def keys (m : Entries α) : List Text := m.map Prod.fst

/-- The values, in the order of their keys. -/
def values (m : Entries α) : List α := m.map Prod.snd

/-- The value under `key`, if there is one. -/
def get? (m : Entries α) (key : Text) : Option α :=
  match m with
  | [] => none
  | (k, v) :: rest => if k = key then some v else get? rest key

/-- Whether some value stands under `key`. -/
def contains (m : Entries α) (key : Text) : Bool := (get? m key).isSome

/-- The entries with `value` under `key`: at the place the key has, else last. -/
def put (m : Entries α) (key : Text) (value : α) : Entries α :=
  match m with
  | [] => [(key, value)]
  | (k, v) :: rest => if k = key then (k, value) :: rest else (k, v) :: put rest key value

/-- The entries without `key`. -/
def erase (m : Entries α) (key : Text) : Entries α := m.filter (fun entry => entry.1 ≠ key)

/-- Whether two lists of entries give the same keys the same values. Their order
does not count. -/
def alike [DecidableEq α] (m n : Entries α) : Bool :=
  m.length = n.length && m.all (fun entry => get? n entry.1 = some entry.2)

/-- The entries that come of putting the given pairs one after another. -/
def ofList (pairs : List (Text × α)) : Entries α :=
  pairs.foldl (fun m pair => put m pair.1 pair.2) []

@[simp] theorem keys_nil : keys ([] : Entries α) = [] := rfl

@[simp] theorem keys_cons (k : Text) (v : α) (m : Entries α) :
    keys ((k, v) :: m) = k :: keys m := rfl

theorem get?_put (m : Entries α) (key : Text) (value : α) (k : Text) :
    get? (put m key value) k = if key = k then some value else get? m k := by
  induction m with
  | nil => simp [put, get?]
  | cons entry rest ih =>
    obtain ⟨k', v⟩ := entry
    by_cases h : k' = key
    · subst h
      by_cases h' : k' = k <;> simp [put, get?, h']
    · by_cases h' : k' = k
      · subst h'
        simp [put, get?, h, Ne.symm h]
      · simp [put, get?, h, h', ih]

theorem keys_put (m : Entries α) (key : Text) (value : α) :
    keys (put m key value) = if key ∈ keys m then keys m else keys m ++ [key] := by
  induction m with
  | nil => simp [put]
  | cons entry rest ih =>
    obtain ⟨k, v⟩ := entry
    by_cases h : k = key
    · simp [put, h]
    · by_cases h' : key ∈ keys rest <;> simp [put, h, Ne.symm h, ih, h']

theorem get?_isSome (m : Entries α) (key : Text) : (get? m key).isSome ↔ key ∈ keys m := by
  induction m with
  | nil => simp [get?]
  | cons entry rest ih =>
    obtain ⟨k, v⟩ := entry
    by_cases h : k = key
    · simp [get?, h]
    · simp [get?, h, Ne.symm h, ih]

theorem nodup_keys_put (m : Entries α) (key : Text) (value : α) (h : (keys m).Nodup) :
    (keys (put m key value)).Nodup := by
  rw [keys_put]
  split
  · exact h
  · rename_i hk
    rw [List.nodup_append]
    refine ⟨h, by simp, ?_⟩
    intro a ha b hb
    rw [List.mem_singleton] at hb
    rintro rfl
    exact hk (hb ▸ ha)

theorem nodup_keys_ofList (pairs : List (Text × α)) : (keys (ofList pairs)).Nodup := by
  suffices h : ∀ m : Entries α, (keys m).Nodup →
      (keys (pairs.foldl (fun m pair => put m pair.1 pair.2) m)).Nodup from h [] (by simp)
  induction pairs with
  | nil => exact fun _ h => h
  | cons pair rest ih => exact fun m h => ih _ (nodup_keys_put m _ _ h)

end Entries

end ArtifactSearch
