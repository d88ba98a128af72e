import ArtifactSearch.Store.Paging

/-!
# ArtifactSearch.Proofs.Store.Paging

**The pages of results are all of them, once.** With a sensible page size a page is a
plain piece of the results (`page_eq_take_drop`), the pieces before a position make up
everything before it (`flatMap_range_page`), and the number of pages is the least that
reaches the end: it does so (`le_pageCount_mul`), and the page before does not
(`mul_lt_of_lt_pageCount`). Which pages are full, which is the last, and which are empty
all follow from those two bounds (`paged`).

What is shown is the page that is asked for if there is one (`shown`).
-/

namespace ArtifactSearch

namespace Paging

variable {α : Type} {pageSize page : Int} {count : Nat}

/-! ### Pages as pieces -/

theorem page_eq_take_drop (h : 1 ≤ pageSize) (hpage : 1 ≤ page) (xs : List α) :
    Paging.page pageSize page xs = (xs.drop ((page - 1) * pageSize).toNat).take pageSize.toNat := by
  have hstart : 0 ≤ (page - 1) * pageSize := Int.mul_nonneg (by omega) (by omega)
  rw [Paging.page, if_neg (by omega), slice, position, position, if_neg (by omega),
    if_neg (by omega), List.drop_take]
  -- Beyond the end of the results, the bounds are the end.
  by_cases hend : xs.length ≤ ((page - 1) * pageSize).toNat
  · rw [List.drop_eq_nil_of_le hend, List.drop_eq_nil_of_le (by omega)]
    simp
  · rw [Nat.min_eq_left (by omega : ((page - 1) * pageSize).toNat ≤ xs.length)]
    rw [List.take_eq_take_iff, List.length_drop]
    omega

theorem flatMap_range_page (h : 1 ≤ pageSize) (xs : List α) (n : Nat) :
    (List.range n).flatMap (fun i : Nat => Paging.page pageSize (i + 1) xs)
      = xs.take (n * pageSize.toNat) := by
  induction n with
  | zero => simp
  | succ n ih =>
      have hstart : ((n : Int) * pageSize).toNat = n * pageSize.toNat :=
        Int.toNat_mul (by omega) (by omega)
      rw [List.range_succ, List.flatMap_append, ih, Nat.succ_mul, List.take_add]
      simp [page_eq_take_drop h (show (1 : Int) ≤ n + 1 by omega), hstart]

/-! ### The number of pages -/

theorem one_le_pageCount (pageSize : Int) (count : Nat) : 1 ≤ pageCount pageSize count := by
  unfold pageCount
  split <;> omega

theorem le_pageCount_mul (h : 1 ≤ pageSize) (count : Nat) :
    (count : Int) ≤ pageCount pageSize count * pageSize := by
  have hnext :=
    Int.lt_ediv_add_one_mul_self (count + pageSize - 1 : Int) (show 0 < pageSize by omega)
  rw [pageCount, if_neg (by omega)]
  calc (count : Int) ≤ (count + pageSize - 1) / pageSize * pageSize := by
        rw [Int.add_mul] at hnext
        omega
    _ ≤ max 1 ((count + pageSize - 1) / pageSize) * pageSize :=
        Int.mul_le_mul_of_nonneg_right (Int.le_max_right _ _) (by omega)

/-- Behind the pages before the last one, there is a result left; for the first page only
if there is one at all. -/
theorem mul_lt_of_lt_pageCount (h : 1 ≤ pageSize) {before : Int}
    (hbefore : before < pageCount pageSize count) (hfirst : before ≤ 0 → 0 < count) :
    before * pageSize < count := by
  rw [pageCount, if_neg (by omega)] at hbefore
  obtain hnone | hsome : before ≤ 0 ∨ before + 1 ≤ (count + pageSize - 1) / pageSize := by
    omega
  · have hstart : before * pageSize ≤ 0 := Int.mul_nonpos_of_nonpos_of_nonneg hnone (by omega)
    omega
  · have hend : (before + 1) * pageSize ≤ count + pageSize - 1 :=
      Int.le_trans (Int.mul_le_mul_of_nonneg_right hsome (by omega))
        (Int.ediv_mul_le _ (by omega))
    rw [Int.add_mul] at hend
    omega

theorem length_page (h : 1 ≤ pageSize) (hpage : 1 ≤ page) (xs : List α) :
    ((Paging.page pageSize page xs).length : Int)
      = min pageSize (max 0 (xs.length - (page - 1) * pageSize)) := by
  have hstart : 0 ≤ (page - 1) * pageSize := Int.mul_nonneg (by omega) (by omega)
  rw [page_eq_take_drop h hpage, List.length_take, List.length_drop]
  omega

/-! ### All pages -/

/-- What makes pages of results: one behind the other, they are the results, all but the
last one are full, the last one is empty only without results, and there are no more. -/
structure Paged (pageOf : Int → List α) (pageSize pages : Int) (results : List α) : Prop where
  /-- No result is lost or repeated. -/
  whole : (List.range pages.toNat).flatMap (fun i : Nat => pageOf (i + 1)) = results
  /-- The pages before the last one. -/
  full : ∀ page, 1 ≤ page → page < pages → ((pageOf page).length : Int) = pageSize
  /-- The last page. -/
  last : results ≠ [] → pageOf pages ≠ []
  /-- What is no page. -/
  outside : ∀ page, page < 1 ∨ pages < page → pageOf page = []

theorem paged (h : 1 ≤ pageSize) (results : List α) :
    Paged (fun page => Paging.page pageSize page results) pageSize
      (pageCount pageSize results.length) results := by
  have hfirst := one_le_pageCount pageSize results.length
  have hreach := le_pageCount_mul h results.length
  constructor
  · have hnat := Int.toNat_mul (show 0 ≤ pageCount pageSize results.length by omega)
      (show 0 ≤ pageSize by omega)
    rw [flatMap_range_page h, List.take_of_length_le]
    omega
  · intro page hpage hbefore
    have hend := mul_lt_of_lt_pageCount h hbefore (by omega)
    rw [length_page h hpage, Int.sub_mul]
    omega
  · intro hne hnil
    have hend := mul_lt_of_lt_pageCount h (Int.sub_one_lt_of_le (Int.le_refl _))
      fun _ => List.length_pos_iff.mpr hne
    have hlength := length_page h hfirst results
    rw [hnil, List.length_nil] at hlength
    omega
  · rintro page (hpage | hpage)
    · exact if_pos hpage
    · have hbeyond : pageCount pageSize results.length * pageSize ≤ (page - 1) * pageSize :=
        Int.mul_le_mul_of_nonneg_right (by omega) (by omega)
      rw [← List.length_eq_zero_iff, ← Int.natCast_eq_zero, length_page h (by omega)]
      omega

/-! ### The page that is shown -/

/-- What is shown of results when a page is asked for: the rows of a page that is there,
and of the one asked for if that is. -/
structure Shown (asked pageSize pages page : Int) (results rows : List α) : Prop where
  /-- It is a page. -/
  within : 1 ≤ page ∧ page ≤ pages
  /-- It is the one that is asked for, if there is one. -/
  eq_asked : 1 ≤ asked → asked ≤ pages → page = asked
  /-- Its rows are the results from its first position on, as many as fit. -/
  eq_take_drop : rows = (results.drop ((page - 1) * pageSize).toNat).take pageSize.toNat
  /-- It has rows if there are results. -/
  ne_nil : results ≠ [] → rows ≠ []

theorem shown (h : 1 ≤ pageSize) (asked : Int) (results : List α) :
    let pages := pageCount pageSize results.length
    Shown asked pageSize pages (clamp pages asked) results
      (Paging.page pageSize (clamp pages asked) results) := by
  intro pages
  have hfirst : 1 ≤ pages := one_le_pageCount pageSize results.length
  have hpaged : Paged _ pageSize pages results := paged h results
  have hwithin : 1 ≤ clamp pages asked ∧ clamp pages asked ≤ pages := by
    unfold clamp
    omega
  refine ⟨hwithin, fun _ _ => ?_, page_eq_take_drop h hwithin.1 results, fun hne hnil => ?_⟩
  · unfold clamp
    omega
  · obtain hlast | hbefore : clamp pages asked = pages ∨ clamp pages asked < pages := by omega
    · rw [hlast] at hnil
      exact hpaged.last hne hnil
    · have hfull := hpaged.full _ hwithin.1 hbefore
      rw [hnil, List.length_nil] at hfull
      omega

end Paging

namespace Store

theorem pageSize_apply (store : Store) (change : Change) :
    (store.apply change).pageSize = store.pageSize := by
  cases change with
  | ingest fileName content =>
      unfold apply ingest
      dsimp only
      split <;> rfl
  | remove key =>
      unfold apply remove
      dsimp only
      split <;> rfl
  | clear | setQuery | setPage => rfl

theorem pageSize_applyAll (store : Store) (changes : List Change) :
    (store.applyAll changes).pageSize = store.pageSize := by
  induction changes generalizing store with
  | nil => rfl
  | cons change rest ih => exact (ih _).trans (pageSize_apply store change)

end Store

end ArtifactSearch
