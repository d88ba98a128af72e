import ArtifactSearch.Proofs.Text.Steady
import ArtifactSearch.Proofs.Text.Trim
import ArtifactSearch.Text.Blank

/-!
# ArtifactSearch.Proofs.Text.Words

**Lower-casing and the ends of words.** The lower-case form of a text depends on what
stands around it, by the capital sigma alone: it is a final one at the end of a word. A
character that `endsWord` is neither cased nor looked through, so the sigma before it does
not see what comes behind it (`lowerFrom_append`), and lower-casing starts anew after it
(`lowerFrom_suffix`). White space is of that kind. A text trimmed of it is therefore a part
of the untrimmed one in lower case too (`lower_trim_isInfix`).
-/

namespace ArtifactSearch

namespace Blank

/-- The code points of white space. -/
def spaces : List Nat :=
  [0x09, 0x0A, 0x0B, 0x0C, 0x0D, 0x1C, 0x1D, 0x1E, 0x1F, 0x20, 0x85, 0xA0, 0x1680, 0x2000, 0x2001,
    0x2002, 0x2003, 0x2004, 0x2005, 0x2006, 0x2007, 0x2008, 0x2009, 0x200A, 0x2028, 0x2029, 0x202F,
    0x205F, 0x3000]

theorem mem_spaces_of_isSpace {c : Char} (h : isSpace c = true) : c.toNat ∈ spaces := by
  simp only [isSpace, isWideSpace, Bool.or_eq_true, Bool.and_eq_true, beq_iff_eq,
    decide_eq_true_eq] at h
  simp only [spaces, List.mem_cons, List.not_mem_nil, or_false]
  omega

end Blank

namespace Text

/-- Whether a word ends before the character: it is neither cased nor looked through. -/
def endsWord (c : Char) : Bool := !isCaseIgnorable c && !isCased c

theorem endsWord_of_isSpace {c : Char} (h : Blank.isSpace c = true) : endsWord c = true := by
  have hall : ∀ n ∈ Blank.spaces,
      (inRanges caseIgnorableRanges n || inRanges casedRanges n) = false := by decide +kernel
  have hc := hall c.toNat (Blank.mem_spaces_of_isSpace h)
  rw [Bool.or_eq_false_iff] at hc
  simp [endsWord, isCaseIgnorable, isCased, hc]

theorem casedAfter_of_endsWord {c : Char} (h : endsWord c = true) (before : Bool) :
    casedAfter before c = false := by
  simp_all [endsWord, casedAfter]

theorem startsCased_of_endsWord {s : Text} (h : ∀ c, s.head? = some c → endsWord c = true) :
    startsCased s = false := by
  cases s with
  | nil => rfl
  | cons c rest =>
      have hc := h c rfl
      simp_all [endsWord, startsCased]

theorem lowerFrom_append {b : Text} (h : startsCased b = false) (before : Bool) (a : Text) :
    lowerFrom before (a ++ b) = lowerFrom before a ++ lowerFrom (a.foldl casedAfter before) b := by
  rw [lowerFrom_append_eq, h, ← lowerFrom_eq_lowerBetween]

theorem lowerFrom_suffix {a : Text} (h : ∀ c ∈ a, endsWord c = true) (s : Text) :
    lowerFrom false s <:+ lowerFrom false (a ++ s) := by
  induction a with
  | nil => exact List.suffix_rfl
  | cons c rest ih =>
      obtain ⟨hc, hrest⟩ := List.forall_mem_cons.mp h
      rw [List.cons_append, lowerFrom, casedAfter_of_endsWord hc]
      exact (ih hrest).trans (List.suffix_append _ _)

/-- What a text trimmed of white space is in lower case stands in the lower-case form of the
whole text. -/
theorem lower_trim_isInfix (s : Text) : lower (trim Blank.isSpace s) <:+: lower s := by
  obtain ⟨before, after, hs, hbefore, hafter⟩ := exists_trim_eq Blank.isSpace s
  have hends : startsCased after = false :=
    startsCased_of_endsWord fun c hc => endsWord_of_isSpace (hafter c (List.mem_of_head? hc))
  have hwhole := lowerFrom_suffix (fun c hc => endsWord_of_isSpace (hbefore c hc))
    (trim Blank.isSpace s ++ after)
  rw [← hs, lowerFrom_append hends] at hwhole
  rw [lower_eq_lowerFrom, lower_eq_lowerFrom s]
  exact (List.prefix_append _ _).isInfix.trans hwhole.isInfix

end Text

end ArtifactSearch
