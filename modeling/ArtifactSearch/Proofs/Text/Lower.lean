import ArtifactSearch.Proofs.Text.Casing

/-!
# ArtifactSearch.Proofs.Text.Lower

**What lower-casing keeps.** The partner of a letter beyond ASCII is a letter as
well (`lowerChar_cases`), so lower-casing neither makes nor loses line feeds
(`newline_mem_lower`).
-/

namespace ArtifactSearch.Text

/-! ### Single characters -/

/-- A shift that is not zero belongs to a run around the code point. -/
theorem lowerShift_cases (runs : List LowerRun) (n : Nat) :
    lowerShift runs n = 0 ∨
      ∃ run ∈ runs, run.first ≤ n ∧ n ≤ run.last ∧ lowerShift runs n = run.shift := by
  induction runs with
  | nil => exact .inl rfl
  | cons run rest ih =>
      unfold lowerShift
      split
      · exact .inl rfl
      · rename_i hfirst
        split
        · rename_i hlast
          split
          · exact .inr ⟨run, by simp, by omega, hlast, rfl⟩
          · exact .inl rfl
        · rcases ih with h | ⟨other, hother, h⟩
          · exact .inl h
          · exact .inr ⟨other, by simp [hother], h⟩

/-- A run whose partners are characters from the small a on. -/
def LowerRun.lands (run : LowerRun) : Bool :=
  0x61 ≤ run.first + run.shift && (run.last + run.shift < 0xD800 ||
    (0xDFFF < run.first + run.shift && run.last + run.shift < 0x110000))

theorem lands_of_mem_lowerRuns : ∀ run ∈ lowerRuns, run.lands = true := by decide +kernel

theorem toNat_ofNat_of_isValidChar {n : Nat} (h : n.isValidChar) : (Char.ofNat n).toNat = n := by
  rw [Char.ofNat, dif_pos h]
  rfl

theorem lowerChar_of_ascii {c : Char} (h : c.toNat < 0x80) : lowerChar c = [c.toLower] := if_pos h

/-- Beyond ASCII the lower-case form is the character itself, or it has only
characters from the small a on. -/
theorem lowerChar_cases {c : Char} (h : 0x80 ≤ c.toNat) :
    lowerChar c = [c] ∨ ∀ d ∈ lowerChar c, 0x61 ≤ d.toNat := by
  unfold lowerChar
  rw [if_neg (by omega)]
  split
  · right
    simp
  · rcases lowerShift_cases lowerRuns c.toNat with hshift | ⟨run, hrun, hfirst, hlast, hshift⟩
    · left
      rw [hshift, Int.add_zero, Int.toNat_natCast, Char.ofNat_toNat]
    · right
      have hlands := lands_of_mem_lowerRuns run hrun
      simp only [LowerRun.lands, Bool.and_eq_true, Bool.or_eq_true, decide_eq_true_eq] at hlands
      intro d hd
      rw [List.mem_singleton] at hd
      have hvalid : (c.toNat + lowerShift lowerRuns c.toNat).toNat.isValidChar := by
        unfold Nat.isValidChar
        omega
      rw [hd, toNat_ofNat_of_isValidChar hvalid]
      omega

theorem newline_mem_lowerChar {c : Char} : '\n' ∈ lowerChar c ↔ c = '\n' := by
  rcases Nat.lt_or_ge c.toNat 0x80 with h | h
  · rw [lowerChar_of_ascii h, List.mem_singleton, eq_comm, toLower_eq_newline_iff]
  · have hc : c ≠ '\n' := by
      rintro rfl
      exact absurd h (by decide)
    refine iff_of_false (fun hmem => ?_) hc
    rcases lowerChar_cases h with hself | hletters
    · rw [hself, List.mem_singleton] at hmem
      exact hc hmem.symm
    · exact absurd (hletters '\n' hmem) (by decide)

theorem lowerChar_ne_nil (c : Char) : lowerChar c ≠ [] := by
  unfold lowerChar
  split
  · simp
  · split <;> simp

/-! ### Whole texts -/

theorem lower_eq_nil_iff {s : Text} : lower s = [] ↔ s = [] := by
  cases s with
  | nil => exact iff_of_true rfl rfl
  | cons c rest =>
      refine iff_of_false (fun hnil => ?_) (by simp)
      rw [lower_eq_lowerFrom, lowerFrom, List.append_eq_nil_iff] at hnil
      split at hnil
      · simp at hnil
      · exact lowerChar_ne_nil c hnil.1

theorem newline_mem_lowerFrom {s : Text} {before : Bool} :
    '\n' ∈ lowerFrom before s ↔ '\n' ∈ s := by
  induction s generalizing before with
  | nil => simp [lowerFrom]
  | cons c rest ih =>
      rw [lowerFrom, List.mem_append, ih, List.mem_cons]
      refine or_congr ?_ Iff.rfl
      split
      · rename_i hc
        subst hc
        unfold lowerSigma
        split <;> decide
      · rw [newline_mem_lowerChar, eq_comm]

theorem newline_mem_lower {s : Text} : '\n' ∈ lower s ↔ '\n' ∈ s := by
  rw [lower_eq_lowerFrom, newline_mem_lowerFrom]

end ArtifactSearch.Text
