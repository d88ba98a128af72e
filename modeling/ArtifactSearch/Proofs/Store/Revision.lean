import ArtifactSearch.Proofs.Store.Invariant

/-!
# ArtifactSearch.Proofs.Store.Revision

**The revision stands for the index map.** One change leaves the revision alone
only if it leaves the index map alone (`indexes_apply`), and never lowers it
(`revision_le_apply`). Along a history the revision can therefore not come back to
a value it once had with another index map in between, and two states of the same
revision and query have the same results.

That an ingest is not counted although it changes the map is ruled out by
`ingest_eq`, which is where the comparison of records in any order of their keys
comes down to equality.
-/

namespace ArtifactSearch.Store

/-! ### One change -/

/-- An ingest counts as one change or none, according to whether it is one. -/
theorem revision_ingest {store : Store} (h : store.indexes.WellFormed) (fileName content : Text) :
    (store.ingest fileName content).revision = store.revision +
      if (store.ingest fileName content).indexes = store.indexes then 0 else 1 := by
  rw [ingest_eq h]
  dsimp only
  split
  · rw [if_pos rfl]
    rfl
  · rename_i hnew
    rw [if_neg]
    intro hsame
    -- The map would hold the new index already.
    apply hnew
    rw [← hsame, Entries.get?_put, if_pos rfl]

/-- A removal counts as one change or none, according to whether it is one. -/
theorem revision_remove (store : Store) (key : Text) :
    (store.remove key).revision = store.revision +
      if (store.remove key).indexes = store.indexes then 0 else 1 := by
  unfold remove
  split
  · rename_i hloaded
    rw [if_neg]
    intro hsame
    have herased : key ∉ store.indexes.keys := by
      rw [← hsame]
      exact Entries.not_mem_keys_erase store.indexes key
    exact herased (Entries.contains_iff.mp hloaded)
  · rw [if_pos rfl]
    rfl

theorem revision_le_apply {store : Store} (h : store.indexes.WellFormed) (change : Change) :
    store.revision ≤ (store.apply change).revision := by
  cases change with
  | ingest fileName content =>
      rw [apply, revision_ingest h]
      exact Nat.le_add_right _ _
  | remove key =>
      rw [apply, revision_remove]
      exact Nat.le_add_right _ _
  | clear => exact Nat.le_succ _
  | setQuery query => exact Nat.le_refl _
  | setPage page => exact Nat.le_refl _

/-- A change that does not count leaves the index map as it is. -/
theorem indexes_apply {store : Store} (h : store.indexes.WellFormed) {change : Change}
    (hsame : (store.apply change).revision = store.revision) :
    (store.apply change).indexes = store.indexes := by
  cases change with
  | ingest fileName content =>
      rw [apply, revision_ingest h] at hsame
      split at hsame
      · assumption
      · omega
  | remove key =>
      rw [apply, revision_remove] at hsame
      split at hsame
      · assumption
      · omega
  | clear => exact absurd hsame (Nat.succ_ne_self _)
  | setQuery query => rfl
  | setPage page => rfl

/-! ### Every history -/

theorem revision_le_applyAll {store : Store} (h : store.indexes.WellFormed)
    (changes : List Change) : store.revision ≤ (store.applyAll changes).revision := by
  induction changes generalizing store with
  | nil => exact Nat.le_refl _
  | cons change rest ih =>
      exact Nat.le_trans (revision_le_apply h change) (ih (wellFormed_apply h change))

theorem indexes_applyAll {store : Store} (h : store.indexes.WellFormed) {changes : List Change}
    (hsame : (store.applyAll changes).revision = store.revision) :
    (store.applyAll changes).indexes = store.indexes := by
  induction changes generalizing store with
  | nil => rfl
  | cons change rest ih =>
      have hnext := wellFormed_apply h change
      -- The revision only grows, so it has not moved in the first change either.
      have hfirst : store.revision ≤ (store.apply change).revision := revision_le_apply h change
      have hrest : (store.apply change).revision ≤ ((store.apply change).applyAll rest).revision :=
        revision_le_applyAll hnext rest
      have hlast : ((store.apply change).applyAll rest).revision = store.revision := hsame
      exact (ih hnext (by omega)).trans (indexes_apply h (by omega))

theorem applyAll_append (store : Store) (before later : List Change) :
    store.applyAll (before ++ later) = (store.applyAll before).applyAll later :=
  List.foldl_append

/-- Of two moments of a history, the later state comes from the earlier one. -/
theorem applyAll_take_of_le (store : Store) (history : List Change) {i j : Nat} (h : i ≤ j) :
    store.applyAll (history.take j)
      = (store.applyAll (history.take i)).applyAll ((history.take j).drop i) := by
  have htake : (history.take j).take i = history.take i := by rw [List.take_take, Nat.min_eq_left h]
  rw [← applyAll_append, ← htake, List.take_append_drop]

/-- **Query and revision determine the results.** Along every history the revision
never falls, and states of the same revision have the same index map, hence the
same results if their queries agree. From every state on the way, an ingest or a
removal raises the revision by one if it changes the index map and leaves it alone
otherwise, and setting the query or the page leaves it alone. -/
theorem results_eq_of_revision_eq (pageSize : Int) (history : List Change) :
    let state (n : Nat) : Store := (empty pageSize).applyAll (history.take n)
    (∀ i j, i ≤ j → (state i).revision ≤ (state j).revision) ∧
    (∀ i j, (state i).revision = (state j).revision →
      (state i).indexes = (state j).indexes ∧
      ((state i).query = (state j).query → (state i).results = (state j).results)) ∧
    ∀ n,
      (∀ fileName content, ((state n).ingest fileName content).revision = (state n).revision +
        if ((state n).ingest fileName content).indexes = (state n).indexes then 0 else 1) ∧
      (∀ key, ((state n).remove key).revision = (state n).revision +
        if ((state n).remove key).indexes = (state n).indexes then 0 else 1) ∧
      (∀ query, ((state n).setQuery query).revision = (state n).revision) ∧
      ∀ page, ((state n).setPage page).revision = (state n).revision := by
  intro state
  have hwf : ∀ n, (state n).indexes.WellFormed :=
    fun n => wellFormed_applyAll IndexMap.wellFormed_nil _
  have hlater : ∀ {i j : Nat}, i ≤ j → (state j) = (state i).applyAll ((history.take j).drop i) :=
    fun hij => applyAll_take_of_le _ history hij
  have hindexes : ∀ {i j : Nat}, i ≤ j → (state j).revision = (state i).revision →
      (state j).indexes = (state i).indexes := by
    intro i j hij hsame
    rw [hlater hij] at hsame ⊢
    exact indexes_applyAll (hwf i) hsame
  refine ⟨?_, ?_, fun n => ⟨?_, ?_, fun query => rfl, fun page => rfl⟩⟩
  · intro i j hij
    rw [hlater hij]
    exact revision_le_applyAll (hwf i) _
  · intro i j hsame
    have hmap : (state i).indexes = (state j).indexes := by
      rcases Nat.le_total i j with hij | hji
      · exact (hindexes hij hsame.symm).symm
      · exact hindexes hji hsame
    refine ⟨hmap, fun hquery => ?_⟩
    rw [results, results, hquery, hmap]
  · exact fun fileName content => revision_ingest (hwf n) fileName content
  · exact fun key => revision_remove (state n) key

end ArtifactSearch.Store
