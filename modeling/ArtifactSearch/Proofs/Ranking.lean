import ArtifactSearch.Proofs.Entries
import ArtifactSearch.Proofs.Profile

/-!
# ArtifactSearch.Proofs.Ranking

**Profiles show the first places of a ranking.** The `Ranking` of a list of values is told by
what stands in it and by which of two values comes first, and there is one only
(`Ranking.unique`). The counts in order of first occurrence, sorted, are it (`ranking_ranked`):
sorting keeps the order of what compares equal (`pairwise_mergeSort_of_pairwise`).
-/

namespace ArtifactSearch.Profile

/-! ### Rankings -/

/-- The distinct values that are not empty, the most frequent first, equally frequent ones in
order of first occurrence. -/
structure Ranking (values ranking : List Text) : Prop where
  /-- No value stands twice. -/
  nodup : ranking.Nodup
  /-- All values but the empty one stand there, and no other. -/
  mem_iff : ∀ value, value ∈ ranking ↔ value ∈ values ∧ value ≠ []
  /-- The more frequent one of two comes first, or the one seen first. -/
  ordered : ranking.Pairwise fun a b => values.count b < values.count a ∨
    (values.count b = values.count a ∧ values.idxOf a < values.idxOf b)

variable {values ranking : List Text}

theorem Ranking.unique {other : List Text} (h : Ranking values ranking)
    (h' : Ranking values other) : ranking = other := by
  have hperm : ranking.Perm other := (List.perm_ext_iff_of_nodup h.nodup h'.nodup).mpr
    fun value => (h.mem_iff value).trans (h'.mem_iff value).symm
  refine List.Perm.eq_of_pairwise (fun a b _ _ hab hba => ?_) h.ordered h'.ordered hperm
  omega

/-! ### Sorting by counts -/

section Stable

variable {α : Type} {r : α → α → Prop} {l : List α}

/-- Of two members with their places, the one at the earlier place comes first. -/
theorem rel_of_mem_zipIdx (h : l.Pairwise r) {a b : α × Nat} (ha : a ∈ l.zipIdx)
    (hb : b ∈ l.zipIdx) (hplaces : a.2 < b.2) : r a.1 b.1 := by
  obtain ⟨hi, hvalue⟩ := List.getElem?_eq_some_iff.mp (List.mem_zipIdx_iff_getElem?.mp ha)
  obtain ⟨hj, hvalue'⟩ := List.getElem?_eq_some_iff.mp (List.mem_zipIdx_iff_getElem?.mp hb)
  rw [← hvalue, ← hvalue']
  exact List.pairwise_iff_getElem.mp h a.2 b.2 hi hj hplaces

/-- Sorting keeps the order of what compares equal. -/
theorem pairwise_mergeSort_of_pairwise (le : α → α → Bool)
    (htrans : ∀ a b c, le a b = true → le b c = true → le a c = true)
    (htotal : ∀ a b, (le a b || le b a) = true) (h : l.Pairwise r) :
    (l.mergeSort le).Pairwise fun a b => le a b = true ∧ (le b a = true → r a b) := by
  -- The members are sorted together with their places, which settle the ties.
  rw [← List.mergeSort_zipIdx, List.pairwise_map]
  have hsorted := List.pairwise_mergeSort (List.zipIdxLE_trans htrans)
    (List.zipIdxLE_total htotal) l.zipIdx
  have hperm := List.mergeSort_perm l.zipIdx (List.zipIdxLE le)
  have hplaces : (l.zipIdx.mergeSort (List.zipIdxLE le)).Pairwise fun a b => a.2 ≠ b.2 := by
    rw [hperm.pairwise_iff Ne.symm, ← List.pairwise_map (f := Prod.snd), List.zipIdx_map_snd]
    exact List.nodup_range'
  refine (hsorted.and hplaces).imp_of_mem fun {a b} ha hb ⟨hle, hne⟩ => ?_
  unfold List.zipIdxLE at hle
  split at hle
  · rename_i hab
    refine ⟨hab, fun hba => ?_⟩
    rw [if_pos hba, decide_eq_true_eq] at hle
    exact rel_of_mem_zipIdx h (hperm.mem_iff.mp ha) (hperm.mem_iff.mp hb)
      (Nat.lt_of_le_of_ne hle hne)
  · cases hle

end Stable

theorem map_fst_counts (values : List Text) : (counts values).map Prod.fst = values.eraseDups := by
  rw [counts, List.map_map]
  exact List.map_id _

/-- The sorted counts of the values that are not empty are a ranking. -/
theorem ranking_ranked (values : List Text) :
    Ranking values ((ranked (values.filter fun value => !value.isEmpty)).map Prod.fst) where
  nodup := by
    have hperm := (List.mergeSort_perm (counts (values.filter fun value => !value.isEmpty))
      (fun a b => b.2 ≤ a.2)).map Prod.fst
    rw [map_fst_counts] at hperm
    exact hperm.nodup_iff.mpr (Entries.nodup_eraseDups _)
  mem_iff value := by
    constructor
    · intro hmem
      obtain ⟨⟨_, count⟩, hentry, rfl⟩ := List.mem_map.mp hmem
      exact (mem_ranked.mp hentry).1
    · intro hmem
      exact List.mem_map.mpr ⟨(value, values.count value), mem_ranked.mpr ⟨hmem, rfl⟩, rfl⟩
  ordered := by
    have hseen : (counts (values.filter fun value => !value.isEmpty)).Pairwise fun a b =>
        values.idxOf a.1 < values.idxOf b.1 := by
      rw [← List.pairwise_map (f := Prod.fst) (R := fun a b => values.idxOf a < values.idxOf b),
        map_fst_counts]
      exact Entries.pairwise_idxOf_eraseDups _ values
    have hsorted := pairwise_mergeSort_of_pairwise (fun a b : Text × Nat => b.2 ≤ a.2)
      (by simp; omega) (by simp; omega) hseen
    rw [List.pairwise_map]
    refine hsorted.imp_of_mem fun {a b} ha hb ⟨hle, htie⟩ => ?_
    have hcount : (a.1 ∈ values ∧ a.1 ≠ []) ∧ a.2 = values.count a.1 := mem_ranked.mp ha
    have hcount' : (b.1 ∈ values ∧ b.1 ≠ []) ∧ b.2 = values.count b.1 := mem_ranked.mp hb
    simp only [decide_eq_true_eq] at hle htie
    rw [← hcount.2, ← hcount'.2]
    rcases Nat.lt_or_eq_of_le hle with hless | hsame
    · exact .inl hless
    · exact .inr ⟨hsame, htie (Nat.le_of_eq hsame.symm)⟩

/-- What is sorted are the values of the ranking with their numbers of occurrences. -/
theorem ranked_eq_map (values : List Text) :
    ranked (values.filter fun value => !value.isEmpty)
      = ((ranked (values.filter fun value => !value.isEmpty)).map Prod.fst).map
          fun value => (value, values.count value) := by
  rw [List.map_map]
  calc ranked (values.filter fun value => !value.isEmpty)
      = (ranked (values.filter fun value => !value.isEmpty)).map id := (List.map_id _).symm
    _ = (ranked (values.filter fun value => !value.isEmpty)).map
          ((fun value => (value, values.count value)) ∘ Prod.fst) :=
        List.map_congr_left fun _ hentry => Prod.ext rfl (mem_ranked.mp hentry).2

/-! ### Profiles -/

/-- What the profile of a column with the given values reports. -/
structure Exact (limit : Nat) (values : List Text) (top : List (Text × Nat)) : Prop where
  /-- The first values of the one ranking there is, as many as are asked for, with their numbers
  of occurrences. -/
  first : ∃! ranking, Ranking values ranking ∧
    top = (ranking.take limit).map fun value => (value, values.count value)
  /-- There are as many as asked for, unless there are fewer values. -/
  length : top.length = min limit (values.filter fun value => value ≠ []).eraseDups.length
  /-- No value is reported twice. -/
  nodup : (top.map Prod.fst).Nodup
  /-- What is reported is there, is not empty, and is counted. -/
  counted : ∀ value count, (value, count) ∈ top →
    value ∈ values ∧ value ≠ [] ∧ count = values.count value
  /-- No other value is more frequent. -/
  best : ∀ value ∈ values, value ≠ [] → value ∉ top.map Prod.fst →
    ∀ entry ∈ top, values.count value ≤ entry.2

theorem Ranking.length (h : Ranking values ranking) :
    ranking.length = (values.filter fun value => value ≠ []).eraseDups.length := by
  refine List.Perm.length_eq ((List.perm_ext_iff_of_nodup h.nodup (Entries.nodup_eraseDups _)).mpr
    fun value => ?_)
  rw [h.mem_iff, List.mem_eraseDups, List.mem_filter, decide_eq_true_iff]

/-- The first places of a ranking, with counts, are all that is asked for. -/
theorem Ranking.exact (h : Ranking values ranking) (limit : Nat) :
    Exact limit values ((ranking.take limit).map fun value => (value, values.count value)) := by
  have hnames : ((ranking.take limit).map fun value => (value, values.count value)).map Prod.fst
      = ranking.take limit := by
    rw [List.map_map]
    exact List.map_id _
  refine ⟨⟨ranking, ⟨h, rfl⟩, fun other hother => (h.unique hother.1).symm⟩, ?_, ?_, ?_, ?_⟩
  · rw [List.length_map, List.length_take, h.length]
  · rw [hnames]
    exact h.nodup.sublist (List.take_sublist _ _)
  · intro value count hmem
    obtain ⟨_, hvalue, hpair⟩ := List.mem_map.mp hmem
    cases hpair
    obtain ⟨hin, hne⟩ := (h.mem_iff value).mp (List.mem_of_mem_take hvalue)
    exact ⟨hin, hne, rfl⟩
  · intro value hvalue hne hnot entry hentry
    rw [hnames] at hnot
    obtain ⟨reported, hreported, rfl⟩ := List.mem_map.mp hentry
    -- What is not reported stands behind what is.
    have hall : value ∈ ranking.take limit ++ ranking.drop limit := by
      rw [List.take_append_drop]
      exact (h.mem_iff value).mpr ⟨hvalue, hne⟩
    have hbehind : value ∈ ranking.drop limit := (List.mem_append.mp hall).resolve_left hnot
    have hordered := h.ordered
    rw [← List.take_append_drop limit ranking, List.pairwise_append] at hordered
    rcases hordered.2.2 reported hreported value hbehind with hless | ⟨hsame, -⟩
    · exact Nat.le_of_lt hless
    · exact Nat.le_of_eq hsame

theorem head_natCast {α : Type} (limit : Nat) (xs : List α) : head limit xs = xs.take limit := by
  rw [head, if_neg (by omega), Int.natAbs_natCast]

theorem exact_topValues (limit : Nat) (values : List Text) :
    Exact limit values (topValues limit values) := by
  have htop : topValues limit values
      = (((ranked (values.filter fun value => !value.isEmpty)).map Prod.fst).take limit).map
          fun value => (value, values.count value) := by
    rw [topValues, head_natCast, List.map_take, ← ranked_eq_map]
  rw [htop]
  exact (ranking_ranked values).exact limit

/-- A missing value counts as little as an empty one. -/
theorem topValues_filterMap (limit : Int) (column : Text) (records : List Record) :
    topValues limit (records.filterMap fun record => record.get? column)
      = topValues limit (records.map fun record => (record.get? column).getD []) := by
  have hkept : (records.filterMap fun record => record.get? column).filter
        (fun value => !value.isEmpty)
      = (records.map fun record => (record.get? column).getD []).filter
        (fun value => !value.isEmpty) := by
    induction records with
    | nil => rfl
    | cons record rest ih =>
        cases hget : record.get? column with
        | none => simpa [hget] using ih
        | some value =>
            simp only [List.filterMap_cons, hget, List.map_cons, Option.getD_some,
              List.filter_cons, ih]
  rw [topValues, hkept, topValues]

/-- **Profiles are exact.** Of any list of values a profile shows the first places of their
ranking by frequency, ties in order of first occurrence, as many as asked for; it counts every
value exactly and tells values apart by each character. The profiles of a table are one for each
column, in column order, and each is that of the values of all records in its column. A record
without the column has an empty value there, and those are never shown. -/
theorem profiles_exact (limit : Nat) :
    (∀ values, Exact limit values (topValues limit values)) ∧
    ∀ columns records, List.Forall₂
      (fun column profile => profile.column = column ∧
        Exact limit (records.map fun record => (record.get? column).getD []) profile.top)
      columns (ofRecords limit columns records) := by
  refine ⟨exact_topValues limit, fun columns records => ?_⟩
  rw [ofRecords, List.forall₂_map_right_iff]
  refine List.forall₂_same.mpr fun column _ => ⟨rfl, ?_⟩
  rw [topValues_filterMap]
  exact exact_topValues limit _

example :
    topValues 2 (["c", "0443", "", "443", "0443", "c"].map String.toList)
      = [("c".toList, 2), ("0443".toList, 2)] := by
  cbv

end ArtifactSearch.Profile
