import ArtifactSearch.Proofs.Text.Lower
import Mathlib.Data.List.Count

/-!
# ArtifactSearch.Proofs.Text.Steady

**Texts whose lower-case form does not depend on what stands around them.** All that a
surrounding text can tell is whether its nearest character that is not looked through is
cased, on either side (`lower_append_append`). A text is `Steady` if these two answers make
no difference. Every text without a capital sigma is, and only a sigma near one of the ends
can spoil it.

A steady text is found in lower case wherever it stands (`Steady.lower_isInfix`). One that
is not steady is missed in a text made of it and one more letter (`exists_around`): the
letter changes the form of a sigma, and no other sigma makes up for it, so the whole has too
few of that form.
-/

namespace ArtifactSearch.Text

/-- Whether the first character that is not looked through is cased, `after` telling this
of what stands behind the text. -/
def startsCasedOr (after : Bool) : Text → Bool
  | [] => after
  | c :: rest => casedAfter (startsCasedOr after rest) c

/-- The lower-case form of a text between what `before` and `after` tell of. -/
def lowerBetween (before after : Bool) : Text → Text
  | [] => []
  | c :: rest =>
    (if c = 'Σ' then [if before && !startsCasedOr after rest then 'ς' else 'σ'] else lowerChar c)
      ++ lowerBetween (casedAfter before c) after rest

/-- The lower-case form is the same whatever stands around. -/
def Steady (s : Text) : Prop := ∀ before after, lowerBetween before after s = lower s

variable {s : Text}

instance : Decidable (Steady s) :=
  inferInstanceAs (Decidable (∀ before after, lowerBetween before after s = lower s))

/-! ### A text and what stands around it -/

theorem startsCased_append_eq (a b : Text) :
    startsCased (a ++ b) = startsCasedOr (startsCased b) a := by
  induction a with
  | nil => rfl
  | cons c rest ih => rw [List.cons_append, startsCased, startsCasedOr, casedAfter, ih]

theorem lowerFrom_append_eq (before : Bool) (a b : Text) :
    lowerFrom before (a ++ b)
      = lowerBetween before (startsCased b) a ++ lowerFrom (a.foldl casedAfter before) b := by
  induction a generalizing before with
  | nil => rfl
  | cons c rest ih =>
      rw [List.cons_append, lowerFrom, lowerBetween, ih, lowerSigma, startsCased_append_eq,
        List.foldl_cons, List.append_assoc]

/-- Nothing behind a text is as good as nothing cased. -/
theorem lowerFrom_eq_lowerBetween (before : Bool) (s : Text) :
    lowerFrom before s = lowerBetween before false s := by
  have h := lowerFrom_append_eq before s []
  rwa [List.append_nil, lowerFrom, List.append_nil] at h

theorem lower_eq_lowerBetween (s : Text) : lower s = lowerBetween false false s := by
  rw [lower_eq_lowerFrom, lowerFrom_eq_lowerBetween]

/-- The lower-case form of a text with others around it. -/
theorem lower_append_append (a s b : Text) :
    ∃ left right, lower (a ++ (s ++ b))
      = left ++ (lowerBetween (a.foldl casedAfter false) (startsCased b) s ++ right) :=
  ⟨_, _, by rw [lower_eq_lowerFrom, lowerFrom_append_eq, lowerFrom_append_eq]⟩

/-- A steady text is found wherever it stands. -/
theorem Steady.lower_isInfix (h : Steady s) {t : Text} (ht : s <:+: t) : lower s <:+: lower t := by
  obtain ⟨a, b, rfl⟩ := ht
  obtain ⟨left, right, hlower⟩ := lower_append_append a s b
  rw [List.append_assoc, hlower, h]
  exact ⟨left, right, by rw [List.append_assoc]⟩

theorem steady_of_not_mem (h : 'Σ' ∉ s) : Steady s := by
  suffices hfree : ∀ before after, lowerBetween before after s = s.flatMap lowerChar by
    intro before after
    rw [lower_eq_lowerBetween, hfree, hfree]
  induction s with
  | nil => exact fun _ _ => rfl
  | cons c rest ih =>
      rw [List.mem_cons, not_or] at h
      intro before after
      rw [lowerBetween, if_neg (Ne.symm h.1), ih h.2, List.flatMap_cons]

/-! ### One side at a time -/

theorem casedAfter_sigma (before : Bool) : casedAfter before 'Σ' = true := by
  cases before <;> decide

theorem casedAfter_mono {before before' : Bool} (h : before = true → before' = true) {c : Char} :
    casedAfter before c = true → casedAfter before' c = true := by
  unfold casedAfter
  split
  · exact h
  · exact id

theorem startsCasedOr_mono {after after' : Bool} (h : after = true → after' = true) :
    ∀ {s : Text}, startsCasedOr after s = true → startsCasedOr after' s = true
  | [] => h
  | _ :: _ => casedAfter_mono (startsCasedOr_mono h)

/-- What stands in front can only turn small sigmas into final ones. -/
theorem lowerBetween_true_or (after : Bool) (s : Text) :
    lowerBetween true after s = lowerBetween false after s ∨
      (lowerBetween true after s).count 'σ' < (lowerBetween false after s).count 'σ' := by
  induction s with
  | nil => exact .inl rfl
  | cons c rest ih =>
      by_cases hc : c = 'Σ'
      · subst hc
        cases hrest : startsCasedOr after rest with
        | true => left; simp [lowerBetween, casedAfter_sigma, hrest]
        | false => right; simp [lowerBetween, casedAfter_sigma, hrest]
      · cases hignorable : isCaseIgnorable c with
        | true => simpa [lowerBetween, hc, casedAfter, hignorable] using ih
        | false => left; simp [lowerBetween, hc, casedAfter, hignorable]

/-- What stands behind can only turn final sigmas into small ones. -/
theorem lowerBetween_or (before : Bool) (s : Text) :
    lowerBetween before true s = lowerBetween before false s ∨
      (lowerBetween before true s).count 'ς' < (lowerBetween before false s).count 'ς' := by
  induction s generalizing before with
  | nil => exact .inl rfl
  | cons c rest ih =>
      have hrest := ih (casedAfter before c)
      by_cases hc : c = 'Σ'
      · subst hc
        rw [casedAfter_sigma] at hrest
        have hmono : startsCasedOr false rest = true → startsCasedOr true rest = true :=
          startsCasedOr_mono (by simp)
        by_cases hfinal : before = true ∧ startsCasedOr false rest = false ∧
            startsCasedOr true rest = true
        · -- This sigma is a small one now, and those that follow do not outweigh it.
          obtain ⟨rfl, hnone, hbehind⟩ := hfinal
          have hle : (lowerBetween true true rest).count 'ς'
              ≤ (lowerBetween true false rest).count 'ς' :=
            hrest.elim (fun heq => Nat.le_of_eq (congrArg _ heq)) Nat.le_of_lt
          right
          simpa [lowerBetween, casedAfter_sigma, hnone, hbehind] using Nat.lt_succ_of_le hle
        · have hhead : (before && !startsCasedOr true rest)
              = (before && !startsCasedOr false rest) := by
            cases before <;> cases hnone : startsCasedOr false rest <;>
              cases hbehind : startsCasedOr true rest <;> simp_all
          simpa [lowerBetween, casedAfter_sigma, hhead, List.count_cons] using hrest
      · simpa [lowerBetween, hc] using hrest

/-- It is enough to look at what stands in front with nothing behind, and the other way round. -/
theorem steady_of_sides (hbefore : lowerBetween true false s = lower s)
    (hafter : lowerBetween false true s = lower s) : Steady s := by
  suffices hboth : lowerBetween true true s = lower s by
    intro before after
    cases before <;> cases after
    · exact (lower_eq_lowerBetween s).symm
    · exact hafter
    · exact hbefore
    · exact hboth
  rw [lower_eq_lowerBetween] at hbefore hafter ⊢
  induction s with
  | nil => rfl
  | cons c rest ih =>
      by_cases hc : c = 'Σ'
      · subst hc
        have hcased : startsCasedOr false rest = true := by
          simpa [lowerBetween, casedAfter_sigma] using hbefore
        have hbehind : startsCasedOr true rest = true := startsCasedOr_mono (by simp) hcased
        have htail : lowerBetween true true rest = lowerBetween true false rest := by
          simpa [lowerBetween, casedAfter_sigma] using hafter
        simp [lowerBetween, casedAfter_sigma, hcased, hbehind, htail]
      · cases hignorable : isCaseIgnorable c with
        | true =>
            simp only [lowerBetween, hc, if_false, casedAfter, hignorable, if_true,
              List.append_cancel_left_eq] at hbefore hafter ⊢
            exact ih hbefore hafter
        | false =>
            -- Both sides go on from the same character in front.
            simpa [lowerBetween, hc, casedAfter, hignorable] using hafter

/-! ### Texts that are missed -/

theorem lower_around {a b : Char} (ha : a ≠ 'Σ') (hb : b ≠ 'Σ') (s : Text) :
    lower (a :: (s ++ [b])) = lowerChar a
      ++ (lowerBetween (casedAfter false a) (startsCased [b]) s ++ lowerChar b) := by
  rw [lower_eq_lowerFrom, lowerFrom, if_neg ha, lowerFrom_append_eq, lowerFrom, if_neg hb,
    lowerFrom, List.append_nil]

/-- A text is not found among others if too few characters of one kind are left of it. -/
theorem not_lower_isInfix_around {a b c : Char} (ha : a ≠ 'Σ') (hb : b ≠ 'Σ')
    (hca : c ∉ lowerChar a) (hcb : c ∉ lowerChar b)
    (hless : (lowerBetween (casedAfter false a) (startsCased [b]) s).count c < (lower s).count c) :
    ¬ lower s <:+: lower (a :: (s ++ [b])) := by
  intro hinfix
  have hcount := hinfix.sublist.count_le c
  rw [lower_around ha hb, List.count_append, List.count_append, List.count_eq_zero.mpr hca,
    List.count_eq_zero.mpr hcb, Nat.zero_add, Nat.add_zero] at hcount
  exact absurd hcount (Nat.not_le_of_lt hless)

/-- A text that is not steady is not found in lower case in some text made of it and one
character on either side. -/
theorem exists_around (h : ¬ Steady s) :
    ∃ a ∈ ['a', '-'], ∃ b ∈ ['a', '-'], ¬ lower s <:+: lower (a :: (s ++ [b])) := by
  by_cases hbefore : lowerBetween true false s = lower s
  · have hafter : lowerBetween false true s ≠ lower s := fun hafter =>
      h (steady_of_sides hbefore hafter)
    rw [lower_eq_lowerBetween] at hafter
    have hless := (lowerBetween_or false s).resolve_left hafter
    rw [← lower_eq_lowerBetween] at hless
    exact ⟨'-', by simp, 'a', by simp,
      not_lower_isInfix_around (by decide) (by decide) (by decide) (by decide) hless⟩
  · rw [lower_eq_lowerBetween] at hbefore
    have hless := (lowerBetween_true_or false s).resolve_left hbefore
    rw [← lower_eq_lowerBetween] at hless
    exact ⟨'a', by simp, '-', by simp,
      not_lower_isInfix_around (by decide) (by decide) (by decide) (by decide) hless⟩

end ArtifactSearch.Text
