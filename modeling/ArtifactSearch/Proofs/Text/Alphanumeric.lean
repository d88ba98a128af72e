import ArtifactSearch.Proofs.Text.Lower
import ArtifactSearch.Text.Blank
import Mathlib.Data.List.Basic

/-!
# ArtifactSearch.Proofs.Text.Alphanumeric

**Letters and digits of ASCII.** The three ranges of code points of `isAlphanumeric_iff` are
apart from both blank classes. Texts of letters and digits that agree up to the case of ASCII
letters have the same lower-case form (`lower_eq_of_map_toLower_eq`).
-/

namespace ArtifactSearch

namespace Text

theorem isAlphanumeric_iff {c : Char} :
    isAlphanumeric c = true ↔
      ((0x61 ≤ c.toNat ∧ c.toNat ≤ 0x7A) ∨ (0x41 ≤ c.toNat ∧ c.toNat ≤ 0x5A)) ∨
        (0x30 ≤ c.toNat ∧ c.toNat ≤ 0x39) := by
  simp only [isAlphanumeric, isDigit, Bool.or_eq_true, Bool.and_eq_true, decide_eq_true_eq,
    Char.le_def, UInt32.le_iff_toNat_le]
  exact Iff.rfl

/-! ### Casing -/

theorem toNat_toLower (c : Char) :
    c.toLower.toNat = if 0x41 ≤ c.toNat ∧ c.toNat ≤ 0x5A then c.toNat + 32 else c.toNat := by
  have hcapital : ('A'.val ≤ c.val ∧ c.val ≤ 'Z'.val) ↔ 0x41 ≤ c.toNat ∧ c.toNat ≤ 0x5A := by
    simp only [UInt32.le_iff_toNat_le]
    exact Iff.rfl
  unfold Char.toLower
  split
  · rename_i h
    have hrange := hcapital.mp h
    rw [if_pos hrange]
    show (c.val + ('a'.val - 'A'.val)).toNat = _
    rw [UInt32.toNat_add]
    show (c.toNat + 32) % 2 ^ 32 = c.toNat + 32
    omega
  · rename_i h
    rw [if_neg fun hrange => h (hcapital.mpr hrange)]

theorem isAlphanumeric_of_toLower_eq {c d : Char} (h : c.toLower = d.toLower)
    (hd : isAlphanumeric d = true) : isAlphanumeric c = true := by
  have hcode := congrArg Char.toNat h
  rw [toNat_toLower, toNat_toLower] at hcode
  rw [isAlphanumeric_iff] at hd ⊢
  split at hcode <;> split at hcode <;> omega

theorem lower_of_isAlphanumeric {s : Text} (h : ∀ c ∈ s, isAlphanumeric c = true) :
    lower s = s.map Char.toLower := by
  rw [lower_eq_lowerFrom, lowerFrom_eq_flatMap fun hsigma => absurd (h _ hsigma) (by decide),
    List.map_eq_flatMap]
  refine List.flatMap_congr fun c hc => lowerChar_of_ascii ?_
  have hc := isAlphanumeric_iff.mp (h c hc)
  omega

section Casing

variable {s t : Text} (h : s.map Char.toLower = t.map Char.toLower)
  (ht : ∀ c ∈ t, isAlphanumeric c = true)

include h ht

/-- Letters and digits stay letters and digits in another casing. -/
theorem isAlphanumeric_of_map_toLower_eq : ∀ c ∈ s, isAlphanumeric c = true := by
  intro c hc
  obtain ⟨d, hd, hcd⟩ := List.mem_map.mp (h ▸ List.mem_map_of_mem hc)
  exact isAlphanumeric_of_toLower_eq hcd.symm (ht d hd)

theorem lower_eq_of_map_toLower_eq : lower s = lower t := by
  rw [lower_of_isAlphanumeric (isAlphanumeric_of_map_toLower_eq h ht), h,
    lower_of_isAlphanumeric ht]

end Casing

end Text

namespace Blank

variable {c : Char}

theorem isWideSpace_of_ascii {n : Nat} (h : n < 0x80) : isWideSpace n = false := by
  simp only [isWideSpace, Bool.or_eq_false_iff, Bool.and_eq_false_iff, beq_eq_false_iff_ne,
    decide_eq_false_iff_not]
  omega

theorem isEdge_of_isAlphanumeric (h : Text.isAlphanumeric c = true) : isEdge c = false := by
  rw [Text.isAlphanumeric_iff] at h
  have hwide : isWideSpace c.toNat = false := isWideSpace_of_ascii (by omega)
  simp only [isEdge, hwide, Bool.or_false, Bool.or_eq_false_iff, Bool.and_eq_false_iff,
    beq_eq_false_iff_ne, decide_eq_false_iff_not]
  omega

theorem isSpace_of_isAlphanumeric (h : Text.isAlphanumeric c = true) : isSpace c = false := by
  rw [Text.isAlphanumeric_iff] at h
  have hwide : isWideSpace c.toNat = false := isWideSpace_of_ascii (by omega)
  simp only [isSpace, hwide, Bool.or_false, Bool.or_eq_false_iff, Bool.and_eq_false_iff,
    beq_eq_false_iff_ne, decide_eq_false_iff_not]
  omega

end Blank

end ArtifactSearch
