import ArtifactSearch.Profile
import Mathlib.Data.List.Basic

/-!
# ArtifactSearch.Proofs.Profile

**Profiles count exactly.** Whatever the ranking and the limit keep, a value is reported
with the number of its occurrences, and it is not empty.
-/

namespace ArtifactSearch.Profile

theorem mem_of_mem_head {α : Type} {limit : Int} {xs : List α} {x : α} (h : x ∈ head limit xs) :
    x ∈ xs := by
  unfold head at h
  split at h <;> exact List.mem_of_mem_take h

theorem mem_counts {values : List Text} {value : Text} {count : Nat} :
    (value, count) ∈ counts values ↔ value ∈ values ∧ count = values.count value := by
  simp only [counts, List.mem_map, Prod.mk.injEq, List.mem_eraseDups]
  constructor
  · rintro ⟨_, hmem, rfl, rfl⟩
    exact ⟨hmem, rfl⟩
  · rintro ⟨hmem, rfl⟩
    exact ⟨value, hmem, rfl, rfl⟩

theorem mem_ranked {values : List Text} {value : Text} {count : Nat} :
    (value, count) ∈ ranked (values.filter fun value => !value.isEmpty) ↔
      (value ∈ values ∧ value ≠ []) ∧ count = values.count value := by
  rw [ranked, List.mem_mergeSort, mem_counts, List.mem_filter]
  have hcount : (!value.isEmpty) = true →
      (values.filter fun value => !value.isEmpty).count value = values.count value :=
    fun hkept => List.count_filter (p := fun other : Text => !other.isEmpty) hkept
  constructor
  · rintro ⟨⟨hvalue, hkept⟩, rfl⟩
    exact ⟨⟨hvalue, by simpa using hkept⟩, hcount hkept⟩
  · rintro ⟨⟨hvalue, hne⟩, rfl⟩
    have hkept : (!value.isEmpty) = true := by simpa using hne
    exact ⟨⟨hvalue, hkept⟩, (hcount hkept).symm⟩

theorem mem_topValues {limit : Int} {values : List Text} {value : Text} {count : Nat}
    (h : (value, count) ∈ topValues limit values) :
    value ≠ [] ∧ value ∈ values ∧ count = values.count value := by
  obtain ⟨⟨hvalue, hne⟩, hcount⟩ := mem_ranked.mp (mem_of_mem_head h)
  exact ⟨hne, hvalue, hcount⟩

/-- Values whose counts are in order already stay in order of first occurrence. -/
theorem topValues_of_sorted {limit : Int} {values : List Text}
    (h : (counts (values.filter fun value => !value.isEmpty)).Pairwise fun a b => b.2 ≤ a.2) :
    topValues limit values = head limit (counts (values.filter fun value => !value.isEmpty)) := by
  rw [topValues, ranked, List.mergeSort_of_pairwise (by simpa using h)]

/-- The occurrences of a value in a column are the records that have it there. -/
theorem count_filterMap_get? (records : List Record) (column value : Text) :
    (records.filterMap fun record => record.get? column).count value
      = (records.filter fun record => record.get? column = some value).length := by
  induction records with
  | nil => rfl
  | cons record rest ih =>
      cases hget : record.get? column with
      | none => simp [hget, ih]
      | some other =>
          by_cases h : other = value
          · simp [hget, ih, h]
          · simp [hget, ih, h]

theorem map_column_ofRecords (limit : Int) (columns : List Text) (records : List Record) :
    (ofRecords limit columns records).map column = columns := by
  simp [ofRecords, Function.comp_def]

theorem mem_top_of_mem_ofRecords {limit : Int} {columns : List Text} {records : List Record}
    {profile : Profile} (h : profile ∈ ofRecords limit columns records) {value : Text}
    {count : Nat} (htop : (value, count) ∈ profile.top) :
    (∃ record ∈ records, record.get? profile.column = some value) ∧
      count = (records.filter fun record => record.get? profile.column = some value).length := by
  obtain ⟨column, -, rfl⟩ := List.mem_map.mp h
  dsimp only at htop ⊢
  obtain ⟨-, hvalue, hcount⟩ := mem_topValues htop
  exact ⟨List.mem_filterMap.mp hvalue, hcount.trans (count_filterMap_get? records column value)⟩

end ArtifactSearch.Profile
