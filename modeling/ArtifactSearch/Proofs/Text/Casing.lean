import ArtifactSearch.Text.Blank
import ArtifactSearch.Text.Lower

/-!
# ArtifactSearch.Proofs.Text.Casing

**The case of ASCII letters does not count.** Everything that is asked of a character on the way
to a lower-case form has the same answer for a capital and its small letter (`apply_toLower`):
whether it is white space, cased or looked through, and what it becomes. So a text may be put in
small ASCII letters before it is trimmed (`trim_map_toLower`) or lower-cased
(`lower_map_toLower`). For lower-casing this is no matter of single characters, since a capital
sigma sees what stands around it; but what it sees of a letter is not the case.
-/

namespace ArtifactSearch.Text

/-! ### Single characters -/

/-- The capital letters of ASCII. -/
def capitals : Text := (List.range 26).map fun i => Char.ofNat ('A'.toNat + i)

theorem mem_capitals {c : Char} (h : 'A'.val ≤ c.val ∧ c.val ≤ 'Z'.val) : c ∈ capitals := by
  have hlow : 'A'.toNat ≤ c.toNat := UInt32.le_iff_toNat_le.mp h.1
  have hhigh : c.toNat ≤ 0x5A := UInt32.le_iff_toNat_le.mp h.2
  have hindex : c.toNat - 'A'.toNat < 26 := Nat.sub_lt_left_of_lt_add hlow (Nat.lt_succ_of_le hhigh)
  refine List.mem_map.mpr ⟨_, List.mem_range.mpr hindex, ?_⟩
  rw [Nat.add_sub_cancel' hlow, Char.ofNat_toNat]

theorem toLower_eq_self_or (c : Char) : c.toLower = c ∨ c ∈ capitals := by
  unfold Char.toLower
  split
  · rename_i h
    exact .inr (mem_capitals h)
  · exact .inl rfl

/-- What capitals have in common with their small letters does not depend on case. -/
theorem apply_toLower {α : Type} [DecidableEq α] (f : Char → α)
    (h : capitals.all (fun c => f c.toLower = f c) = true) (c : Char) : f c.toLower = f c := by
  rcases toLower_eq_self_or c with hself | hcapital
  · rw [hself]
  · exact of_decide_eq_true (List.all_eq_true.mp h c hcapital)

theorem toLower_toLower (c : Char) : c.toLower.toLower = c.toLower :=
  apply_toLower Char.toLower (by decide +kernel) c

/-- No other character becomes one that is no letter of ASCII. -/
theorem toLower_eq_iff {d : Char}
    (h : capitals.all (fun c => decide (c.toLower = d) = decide (c = d)) = true) (c : Char) :
    c.toLower = d ↔ c = d :=
  decide_eq_decide.mp (apply_toLower (fun c => decide (c = d)) h c)

theorem isSpace_toLower (c : Char) : Blank.isSpace c.toLower = Blank.isSpace c :=
  apply_toLower Blank.isSpace (by decide +kernel) c

theorem isCaseIgnorable_toLower (c : Char) : isCaseIgnorable c.toLower = isCaseIgnorable c :=
  apply_toLower isCaseIgnorable (by decide +kernel) c

theorem isCased_toLower (c : Char) : isCased c.toLower = isCased c :=
  apply_toLower isCased (by decide +kernel) c

theorem lowerChar_toLower (c : Char) : lowerChar c.toLower = lowerChar c :=
  apply_toLower lowerChar (by decide +kernel) c

theorem toLower_eq_sigma_iff (c : Char) : c.toLower = 'Σ' ↔ c = 'Σ' :=
  toLower_eq_iff (by decide +kernel) c

theorem toLower_eq_newline_iff (c : Char) : c.toLower = '\n' ↔ c = '\n' :=
  toLower_eq_iff (by decide +kernel) c

/-! ### Whole texts -/

theorem startsCased_map_toLower (s : Text) : startsCased (s.map Char.toLower) = startsCased s := by
  induction s with
  | nil => rfl
  | cons c rest ih =>
      rw [List.map_cons, startsCased, startsCased, isCaseIgnorable_toLower, isCased_toLower, ih]

theorem casedAfter_toLower (before : Bool) (c : Char) :
    casedAfter before c.toLower = casedAfter before c := by
  rw [casedAfter, casedAfter, isCaseIgnorable_toLower, isCased_toLower]

theorem lowerFrom_map_toLower (before : Bool) (s : Text) :
    lowerFrom before (s.map Char.toLower) = lowerFrom before s := by
  induction s generalizing before with
  | nil => rfl
  | cons c rest ih =>
      -- A capital sigma is the same one, with the same answers on both sides.
      simp only [List.map_cons, lowerFrom, toLower_eq_sigma_iff, lowerSigma,
        startsCased_map_toLower, lowerChar_toLower, casedAfter_toLower, ih]

theorem lower_map_toLower (s : Text) : lower (s.map Char.toLower) = lower s := by
  rw [lower_eq_lowerFrom, lowerFrom_map_toLower, ← lower_eq_lowerFrom]

theorem newline_mem_map_toLower {s : Text} : '\n' ∈ s.map Char.toLower ↔ '\n' ∈ s := by
  rw [List.mem_map]
  constructor
  · rintro ⟨c, hmem, hc⟩
    exact (toLower_eq_newline_iff c).mp hc ▸ hmem
  · exact fun hmem => ⟨'\n', hmem, rfl⟩

section Map

variable {blank : Char → Bool} {f : Char → Char} (h : ∀ c, blank (f c) = blank c)

include h

theorem dropWhile_map (s : Text) :
    (s.map f).dropWhile blank = (s.dropWhile blank).map f := by
  have hsame : blank ∘ f = blank := funext h
  rw [List.dropWhile_map, hsame]

theorem trim_map (s : Text) : trim blank (s.map f) = (trim blank s).map f := by
  rw [trim, trim, trimEnd, trimEnd, trimStart, trimStart, dropWhile_map h, ← List.map_reverse,
    dropWhile_map h, List.map_reverse]

end Map

theorem trim_map_toLower (s : Text) :
    trim Blank.isSpace (s.map Char.toLower) = (trim Blank.isSpace s).map Char.toLower :=
  trim_map isSpace_toLower s

end ArtifactSearch.Text
