import ArtifactSearch.Entries
import Mathlib.Data.List.Induction
import Mathlib.Data.List.Nodup

/-!
# ArtifactSearch.Proofs.Entries

**Laws of keyed entries** beyond reading back what was put.

* Entries made of pairs have the keys of the pairs, each at its first occurrence
  (`keys_ofList`), and under each key the last of its values (`get?_ofList_append_cons`);
  if no key repeats, they are the pairs (`ofList_eq_self`). Putting the same pairs once
  more changes nothing (`foldl_put_foldl_put`).
* Reading and membership agree as long as no key repeats (`get?_eq_some_iff`).
* Putting what is there already and erasing what is not change nothing
  (`put_eq_self`, `erase_eq_self`).
* Entries with the same distinct keys in the same order are alike only if they are
  the same (`eq_of_alike`).
-/

namespace ArtifactSearch.Entries

variable {α : Type}

/-! ### Distinct members -/

theorem eraseDups_eq_self {l : List Text} (h : l.Nodup) : l.eraseDups = l := by
  induction l with
  | nil => rfl
  | cons a rest ih =>
      obtain ⟨ha, hrest⟩ := List.nodup_cons.mp h
      have hfilter : rest.filter (fun b => !(b == a)) = rest := by
        rw [List.filter_eq_self]
        intro b hb
        have hne : b ≠ a := fun hba => ha (hba ▸ hb)
        simpa using hne
      rw [List.eraseDups_cons, hfilter, ih hrest]

/-- A member that occurred before does not count again. -/
theorem eraseDups_append_cons {a : Text} {seen : List Text} (h : a ∈ seen) (rest : List Text) :
    (seen ++ a :: rest).eraseDups = (seen ++ rest).eraseDups := by
  rw [List.eraseDups_append, List.eraseDups_append]
  congr 2
  simp [List.removeAll, h]

/-- Members that occurred before do not count. -/
theorem eraseDups_append_of_subset {a b : List Text} (ha : a.Nodup) (hb : ∀ x ∈ b, x ∈ a) :
    (a ++ b).eraseDups = a := by
  have hnone : b.removeAll a = [] := by
    rw [List.removeAll, List.filter_eq_nil_iff]
    intro x hx
    simpa using hb x hx
  rw [List.eraseDups_append, hnone, eraseDups_eq_self ha, List.eraseDups_nil, List.append_nil]

/-- Distinct values stand in order of first occurrence, also if some are left out. -/
theorem pairwise_idxOf_eraseDups (p : Text → Bool) (values : List Text) :
    (values.filter p).eraseDups.Pairwise fun a b => values.idxOf a < values.idxOf b := by
  induction values using List.reverseRecOn with
  | nil => exact List.Pairwise.nil
  | append_singleton values value ih =>
      have hmem : ∀ {a}, a ∈ (values.filter p).eraseDups → a ∈ values := fun ha =>
        (List.mem_filter.mp (List.mem_eraseDups.mp ha)).1
      have hstart : (values.filter p).eraseDups.Pairwise fun a b =>
          (values ++ [value]).idxOf a < (values ++ [value]).idxOf b :=
        ih.imp_of_mem fun ha hb hab => by
          rwa [List.idxOf_append_of_mem (hmem ha), List.idxOf_append_of_mem (hmem hb)]
      rw [List.filter_append, List.eraseDups_append]
      by_cases hnew : p value = true ∧ value ∉ values
      · have hlast : ([value].filter p).removeAll (values.filter p) = [value] := by
          simp [List.removeAll, hnew]
        rw [hlast, eraseDups_eq_self (List.nodup_singleton _), List.pairwise_append]
        refine ⟨hstart, List.pairwise_singleton _ _, fun a ha b hb => ?_⟩
        rw [List.mem_singleton.mp hb, List.idxOf_append_of_mem (hmem ha),
          List.idxOf_append_of_notMem hnew.2]
        exact Nat.lt_of_lt_of_le (List.idxOf_lt_length_iff.mpr (hmem ha)) (Nat.le_add_right _ _)
      · have hlast : ([value].filter p).removeAll (values.filter p) = [] := by
          cases hp : p value with
          | false => simp [List.removeAll, hp]
          | true => simpa [List.removeAll, hp] using hnew
        rw [hlast, List.eraseDups_nil, List.append_nil]
        exact hstart

/-! ### Keys and values -/

theorem keys_append (m n : Entries α) : keys (m ++ n) = keys m ++ keys n := List.map_append

theorem values_append (m n : Entries α) : values (m ++ n) = values m ++ values n := List.map_append

theorem keys_foldl_put (pairs : List (Text × α)) {m : Entries α} (h : (keys m).Nodup) :
    keys (pairs.foldl (fun m pair => put m pair.1 pair.2) m)
      = (keys m ++ pairs.map Prod.fst).eraseDups := by
  induction pairs generalizing m with
  | nil => simp [eraseDups_eq_self h]
  | cons pair rest ih =>
      rw [List.foldl_cons, ih (nodup_keys_put m _ _ h), keys_put, List.map_cons]
      split
      · rename_i hmem
        rw [eraseDups_append_cons hmem]
      · rw [List.append_assoc, List.singleton_append]

theorem keys_ofList (pairs : List (Text × α)) :
    keys (ofList pairs) = (pairs.map Prod.fst).eraseDups := by
  have h := keys_foldl_put pairs (m := []) (by simp)
  simpa [ofList] using h

theorem nodup_eraseDups (l : List Text) : l.eraseDups.Nodup := by
  -- The members are the keys of some entries, and keys never repeat.
  have hkeys : keys (ofList (l.map fun a => (a, ()))) = l.eraseDups := by
    rw [keys_ofList, List.map_map]
    simp [Function.comp_def]
  exact hkeys ▸ nodup_keys_ofList _

/-! ### Putting -/

theorem put_of_not_mem {m : Entries α} {key : Text} (h : key ∉ keys m) (value : α) :
    put m key value = m ++ [(key, value)] := by
  induction m with
  | nil => rfl
  | cons entry rest ih =>
      obtain ⟨k, v⟩ := entry
      rw [keys_cons, List.mem_cons, not_or] at h
      rw [put, if_neg (Ne.symm h.1), ih h.2, List.cons_append]

/-- Putting what stands there already changes nothing. -/
theorem put_eq_self {m : Entries α} {key : Text} {value : α} (h : get? m key = some value) :
    put m key value = m := by
  induction m with
  | nil => simp [get?] at h
  | cons entry rest ih =>
      obtain ⟨k, v⟩ := entry
      by_cases hk : k = key
      · simp only [get?, hk, if_true, Option.some.injEq] at h
        rw [put, if_pos hk, hk, h]
      · simp only [get?, hk, if_false] at h
        rw [put, if_neg hk, ih h]

/-- Putting under a key that is there leaves what stands before and after it. -/
theorem put_append_cons {before : Entries α} {key : Text} (h : key ∉ keys before) (old value : α)
    (after : Entries α) :
    put (before ++ (key, old) :: after) key value = before ++ (key, value) :: after := by
  induction before with
  | nil => rw [List.nil_append, put, if_pos rfl, List.nil_append]
  | cons entry rest ih =>
      obtain ⟨k, v⟩ := entry
      rw [keys_cons, List.mem_cons, not_or] at h
      rw [List.cons_append, put, if_neg (Ne.symm h.1), ih h.2, List.cons_append]

/-- Putting under two keys comes to the same in either order, if one of them is there and so
has its place. -/
theorem put_comm_of_mem {m : Entries α} {key other : Text} (hne : key ≠ other)
    (hmem : key ∈ keys m) (value new : α) :
    put (put m key value) other new = put (put m other new) key value := by
  induction m with
  | nil => cases hmem
  | cons entry rest ih =>
      obtain ⟨k, v⟩ := entry
      by_cases hkey : k = key
      · simp [put, hkey, hne]
      · have hrest : key ∈ keys rest := (List.mem_cons.mp hmem).resolve_left (Ne.symm hkey)
        by_cases hother : k = other
        · simp [put, hother, Ne.symm hne]
        · simp [put, hkey, hother, ih hrest]

/-- Afterwards the entries are old ones under other keys and the new one. -/
theorem mem_put {m : Entries α} {key k : Text} {value v : α} (h : (k, v) ∈ put m key value) :
    (k = key ∧ v = value) ∨ (k, v) ∈ m := by
  induction m with
  | nil => simpa [put] using h
  | cons entry rest ih =>
      obtain ⟨k', v'⟩ := entry
      by_cases hk : k' = key
      · rw [put, if_pos hk, List.mem_cons, Prod.mk.injEq] at h
        rcases h with ⟨rfl, rfl⟩ | h
        · exact .inl ⟨hk, rfl⟩
        · exact .inr (List.mem_cons_of_mem _ h)
      · rw [put, if_neg hk, List.mem_cons] at h
        rcases h with h | h
        · exact .inr (h ▸ List.mem_cons_self)
        · exact (ih h).imp_right (List.mem_cons_of_mem _)

/-- Pairs with distinct keys are entries as they stand. -/
theorem ofList_eq_self {pairs : List (Text × α)} (h : (pairs.map Prod.fst).Nodup) :
    ofList pairs = pairs := by
  -- The induction needs the entries put so far, whose keys do not repeat either.
  suffices hfold : ∀ m : Entries α, (keys m ++ pairs.map Prod.fst).Nodup →
      pairs.foldl (fun m pair => put m pair.1 pair.2) m = m ++ pairs from
    hfold [] (by simpa using h)
  clear h
  induction pairs with
  | nil => simp
  | cons pair rest ih =>
      intro m hm
      have hnew : pair.1 ∉ keys m := fun hmem =>
        (List.nodup_append.mp hm).2.2 pair.1 hmem pair.1 (by simp) rfl
      rw [List.foldl_cons, put_of_not_mem hnew, ih, List.append_assoc, List.singleton_append]
      simpa [keys] using hm

/-- Values put under other keys do not change what a key gives. -/
theorem get?_foldl_put_of_not_mem {pairs : List (Text × α)} {key : Text}
    (h : key ∉ pairs.map Prod.fst) (m : Entries α) :
    get? (pairs.foldl (fun m pair => put m pair.1 pair.2) m) key = get? m key := by
  induction pairs generalizing m with
  | nil => rfl
  | cons pair rest ih =>
      rw [List.map_cons, List.mem_cons, not_or] at h
      rw [List.foldl_cons, ih h.2, get?_put, if_neg (Ne.symm h.1)]

/-- Under a key that values are put under, what was there before does not count. -/
theorem get?_foldl_put_of_mem {pairs : List (Text × α)} {key : Text}
    (h : key ∈ pairs.map Prod.fst) (m n : Entries α) :
    get? (pairs.foldl (fun m pair => put m pair.1 pair.2) m) key
      = get? (pairs.foldl (fun m pair => put m pair.1 pair.2) n) key := by
  induction pairs generalizing m n with
  | nil => cases h
  | cons pair rest ih =>
      rw [List.foldl_cons, List.foldl_cons]
      by_cases hrest : key ∈ rest.map Prod.fst
      · exact ih hrest _ _
      · have hkey : pair.1 = key := ((List.mem_cons.mp h).resolve_right hrest).symm
        rw [get?_foldl_put_of_not_mem hrest, get?_foldl_put_of_not_mem hrest, get?_put, get?_put,
          if_pos hkey, if_pos hkey]

/-- Of the values that a key is paired with, the last one stays. -/
theorem get?_ofList_append_cons {after : List (Text × α)} {key : Text}
    (h : key ∉ after.map Prod.fst) (before : List (Text × α)) (value : α) :
    get? (ofList (before ++ (key, value) :: after)) key = some value := by
  rw [ofList, List.foldl_append, List.foldl_cons, get?_foldl_put_of_not_mem h, get?_put,
    if_pos rfl]

theorem mem_of_mem_ofList {pairs : List (Text × α)} {entry : Text × α}
    (h : entry ∈ ofList pairs) : entry ∈ pairs := by
  suffices hfold : ∀ m : Entries α,
      entry ∈ pairs.foldl (fun m pair => put m pair.1 pair.2) m → entry ∈ m ∨ entry ∈ pairs from
    (hfold [] h).resolve_left (by simp)
  clear h
  induction pairs with
  | nil => exact fun m hm => .inl hm
  | cons pair rest ih =>
      intro m hm
      rcases ih _ hm with hput | hrest
      · rcases mem_put hput with ⟨hk, hv⟩ | hold
        · have hpair : entry = pair := Prod.ext hk hv
          exact .inr (hpair ▸ List.mem_cons_self)
        · exact .inl hold
      · exact .inr (List.mem_cons_of_mem _ hrest)

/-! ### Erasing -/

theorem erase_eq_self {m : Entries α} {key : Text} (h : key ∉ keys m) : erase m key = m := by
  rw [erase, List.filter_eq_self]
  intro entry hentry
  have hne : entry.1 ≠ key := fun hk => h (hk ▸ List.mem_map_of_mem hentry)
  simpa using hne

theorem erase_append_cons {before after : Entries α} {key : Text}
    (h : key ∉ keys (before ++ after)) (value : α) :
    erase (before ++ (key, value) :: after) key = before ++ after := by
  rw [keys, List.map_append, List.mem_append, not_or] at h
  have hbefore := erase_eq_self h.1
  have hafter := erase_eq_self h.2
  rw [erase] at hbefore hafter
  rw [erase, List.filter_append, List.filter_cons_of_neg (by simp), hbefore, hafter]

theorem get?_erase_of_ne (m : Entries α) {key k : Text} (h : k ≠ key) :
    get? (erase m key) k = get? m k := by
  induction m with
  | nil => rfl
  | cons entry rest ih =>
      obtain ⟨k', v⟩ := entry
      by_cases hk : k' = key
      · rw [erase, List.filter_cons_of_neg (by simpa using hk), get?,
          if_neg fun hkk : k' = k => h (hkk.symm.trans hk)]
        exact ih
      · rw [erase, List.filter_cons_of_pos (by simpa using hk), get?, get?]
        exact ite_congr rfl (fun _ => rfl) fun _ => ih

theorem not_mem_keys_erase (m : Entries α) (key : Text) : key ∉ keys (erase m key) := by
  rw [keys, List.mem_map]
  rintro ⟨entry, hentry, rfl⟩
  simpa using (List.mem_filter.mp hentry).2

/-! ### Reading -/

theorem contains_iff {m : Entries α} {key : Text} : contains m key = true ↔ key ∈ keys m :=
  get?_isSome m key

theorem mem_of_get? {m : Entries α} {key : Text} {value : α} (h : get? m key = some value) :
    (key, value) ∈ m := by
  induction m with
  | nil => simp [get?] at h
  | cons entry rest ih =>
      obtain ⟨k, v⟩ := entry
      by_cases hk : k = key
      · simp only [get?, hk, if_true, Option.some.injEq] at h
        simp [hk, h]
      · simp only [get?, hk, if_false] at h
        exact List.mem_cons_of_mem _ (ih h)

theorem get?_eq_some_iff {m : Entries α} (hm : (keys m).Nodup) {key : Text} {value : α} :
    get? m key = some value ↔ (key, value) ∈ m := by
  refine ⟨mem_of_get?, fun hmem => ?_⟩
  induction m with
  | nil => cases hmem
  | cons entry rest ih =>
      obtain ⟨k, v⟩ := entry
      obtain ⟨hk, hrest⟩ := List.nodup_cons.mp hm
      rcases List.mem_cons.mp hmem with heq | hmem
      · obtain ⟨rfl, rfl⟩ := Prod.mk.inj heq
        simp [get?]
      · have hne : k ≠ key := by
          rintro rfl
          exact hk (List.mem_map.mpr ⟨_, hmem, rfl⟩)
        rw [get?, if_neg hne, ih hrest hmem]

/-- Entries are determined by their distinct keys, in order, and what each key
gives. -/
theorem eq_of_get? {m n : Entries α} (hnodup : (keys m).Nodup) (hkeys : keys m = keys n)
    (h : ∀ key ∈ keys m, get? m key = get? n key) : m = n := by
  induction m generalizing n with
  | nil => exact (List.map_eq_nil_iff.mp hkeys.symm).symm
  | cons entry rest ih =>
      obtain ⟨k, v⟩ := entry
      cases n with
      | nil => cases hkeys
      | cons entry' rest' =>
          obtain ⟨k', v'⟩ := entry'
          obtain ⟨rfl, hrest⟩ := List.cons.inj hkeys
          obtain ⟨hk, hnodup⟩ := List.nodup_cons.mp hnodup
          have hv : v = v' := by simpa [get?] using h k (by simp)
          have htail : rest = rest' := by
            refine ih hnodup hrest fun key hkey => ?_
            -- A later key is another one, so reading it skips the first entry.
            have hne : k ≠ key := fun hkk => hk (hkk ▸ hkey)
            simpa [get?, hne] using h key (List.mem_cons_of_mem _ hkey)
          rw [hv, htail]

/-- Putting all pairs once more changes nothing, although keys that repeat among them hold
other values on the way. -/
theorem foldl_put_foldl_put {m : Entries α} (hm : (keys m).Nodup) (pairs : List (Text × α)) :
    pairs.foldl (fun m pair => put m pair.1 pair.2)
        (pairs.foldl (fun m pair => put m pair.1 pair.2) m)
      = pairs.foldl (fun m pair => put m pair.1 pair.2) m := by
  have honce : (keys (pairs.foldl (fun m pair => put m pair.1 pair.2) m)).Nodup := by
    rw [keys_foldl_put pairs hm]
    exact nodup_eraseDups _
  have hkeys : keys (pairs.foldl (fun m pair => put m pair.1 pair.2)
        (pairs.foldl (fun m pair => put m pair.1 pair.2) m))
      = keys (pairs.foldl (fun m pair => put m pair.1 pair.2) m) := by
    rw [keys_foldl_put pairs honce]
    refine eraseDups_append_of_subset honce fun key hkey => ?_
    rw [keys_foldl_put pairs hm, List.mem_eraseDups]
    exact List.mem_append_right _ hkey
  refine eq_of_get? (hkeys ▸ honce) hkeys fun key _ => ?_
  by_cases hkey : key ∈ pairs.map Prod.fst
  · exact get?_foldl_put_of_mem hkey _ _
  · exact get?_foldl_put_of_not_mem hkey _

theorem eq_of_alike [DecidableEq α] {m n : Entries α} (hnodup : (keys m).Nodup)
    (hkeys : keys m = keys n) (h : alike m n = true) : m = n := by
  rw [alike, Bool.and_eq_true, List.all_eq_true] at h
  refine eq_of_get? hnodup hkeys fun key hkey => ?_
  obtain ⟨⟨k, value⟩, hentry, rfl⟩ := List.mem_map.mp hkey
  rw [(get?_eq_some_iff hnodup).mpr hentry]
  exact (by simpa using h.2 _ hentry : get? n k = some value).symm

theorem alike_self [DecidableEq α] {m : Entries α} (hnodup : (keys m).Nodup) :
    alike m m = true := by
  rw [alike, Bool.and_eq_true, List.all_eq_true]
  refine ⟨by simp, fun entry hentry => ?_⟩
  simpa using (get?_eq_some_iff hnodup).mpr hentry

/-- Entries that give each of some keys its value under a function are read as
that function. -/
theorem get?_map_pair {keys : List Text} (f : Text → α) {key : Text} (h : key ∈ keys) :
    get? (keys.map fun k => (k, f k)) key = some (f key) := by
  induction keys with
  | nil => cases h
  | cons k rest ih =>
      rw [List.map_cons, get?]
      by_cases hk : k = key
      · rw [if_pos hk, hk]
      · rw [if_neg hk]
        exact ih (List.mem_of_ne_of_mem (Ne.symm hk) h)

end ArtifactSearch.Entries
