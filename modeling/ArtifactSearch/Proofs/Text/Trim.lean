import ArtifactSearch.Text.Basic

/-!
# ArtifactSearch.Proofs.Text.Trim

**Trimmed texts**: neither end of the text is blank. `Trimmed` says this of the
end characters alone, without running `trim`; trimming makes every text trimmed
(`trimmed_trim`) and leaves trimmed ones alone (`trim_eq_self`). A text is blanks
around what trimming leaves (`exists_trim_eq`), and in no other way (`trim_append`).
-/

namespace ArtifactSearch.Text

variable {blank : Char → Bool}

/-- Neither the first nor the last character of the text is blank. -/
structure Trimmed (blank : Char → Bool) (s : Text) : Prop where
  /-- The first character, if there is one, is not blank. -/
  first : ∀ c, s.head? = some c → blank c = false
  /-- The last character, if there is one, is not blank. -/
  last : ∀ c, s.getLast? = some c → blank c = false

theorem trimmed_nil : Trimmed blank [] := ⟨by simp, by simp⟩

/-- Dropping blanks stops at a character that is not blank. -/
theorem head?_dropWhile {s : Text} {c : Char} (h : (s.dropWhile blank).head? = some c) :
    blank c = false := by
  have hs := List.head?_dropWhile_not blank s
  rw [h] at hs
  simpa using hs

theorem dropWhile_eq_self {s : Text} (h : ∀ c, s.head? = some c → blank c = false) :
    s.dropWhile blank = s := by
  cases s with
  | nil => rfl
  | cons c rest =>
      have hc : blank c = false := h c rfl
      rw [List.dropWhile_cons_of_neg (by simp [hc])]

/-- What trimming at the end leaves is a beginning of the text. -/
theorem trimEnd_isPrefixOf (s : Text) : trimEnd blank s <+: s := by
  have h : s.reverse.dropWhile blank <:+ s.reverse := List.dropWhile_suffix blank
  rw [← List.reverse_prefix] at h
  simpa [trimEnd] using h

theorem trimmed_trim (s : Text) : Trimmed blank (trim blank s) := by
  constructor
  · intro c hc
    -- Trimming the end keeps the first character, unless nothing is left.
    obtain ⟨rest, hrest⟩ : trimEnd blank (trimStart blank s) <+: trimStart blank s :=
      trimEnd_isPrefixOf _
    have hstart : (trimStart blank s).head? = some c := by
      rw [trim] at hc
      rw [← hrest, List.head?_append, hc]
      rfl
    exact head?_dropWhile hstart
  · intro c hc
    rw [trim, trimEnd, List.getLast?_reverse] at hc
    exact head?_dropWhile hc

/-- A text that does not end in a blank is trimmed at its start alone. -/
theorem trim_eq_trimStart {s : Text} (h : ∀ c, s.getLast? = some c → blank c = false) :
    trim blank s = trimStart blank s := by
  have hlast : ∀ c, (trimStart blank s).getLast? = some c → blank c = false := by
    intro c hc
    obtain ⟨dropped, hdropped⟩ : trimStart blank s <:+ s := List.dropWhile_suffix blank
    refine h c ?_
    rw [← hdropped, List.getLast?_append, hc]
    rfl
  have hend : (trimStart blank s).reverse.dropWhile blank = (trimStart blank s).reverse :=
    dropWhile_eq_self fun c hc => hlast c (by rwa [List.head?_reverse] at hc)
  rw [trim, trimEnd, hend, List.reverse_reverse]

/-- Trimming leaves a trimmed text as it is. -/
theorem trim_eq_self {s : Text} (h : Trimmed blank s) : trim blank s = s :=
  (trim_eq_trimStart h.last).trans (dropWhile_eq_self h.first)

theorem mem_of_mem_trim {s : Text} {c : Char} (h : c ∈ trim blank s) : c ∈ s := by
  have hstart : c ∈ trimStart blank s := (trimEnd_isPrefixOf _).subset h
  exact (List.dropWhile_sublist blank).subset hstart

/-! ### What trimming takes away -/

theorem exists_trimEnd_eq (blank : Char → Bool) (s : Text) :
    ∃ after, s = trimEnd blank s ++ after ∧ ∀ c ∈ after, blank c = true := by
  refine ⟨(s.reverse.takeWhile blank).reverse, ?_, fun c hc => ?_⟩
  · rw [trimEnd, ← List.reverse_append, List.takeWhile_append_dropWhile, List.reverse_reverse]
  · exact List.all_eq_true.mp List.all_takeWhile c (List.mem_reverse.mp hc)

/-- What trimming takes away is blank. -/
theorem exists_trim_eq (blank : Char → Bool) (s : Text) :
    ∃ before after, s = before ++ (trim blank s ++ after) ∧
      (∀ c ∈ before, blank c = true) ∧ ∀ c ∈ after, blank c = true := by
  obtain ⟨after, hafter, hblank⟩ := exists_trimEnd_eq blank (trimStart blank s)
  refine ⟨s.takeWhile blank, after, ?_, fun c hc => List.all_eq_true.mp List.all_takeWhile c hc,
    hblank⟩
  rw [trim, ← hafter, trimStart, List.takeWhile_append_dropWhile]

theorem trimEnd_append {s after : Text} (hs : ∀ c, s.getLast? = some c → blank c = false)
    (h : ∀ c ∈ after, blank c = true) : trimEnd blank (s ++ after) = s := by
  have hstop : s.reverse.dropWhile blank = s.reverse :=
    dropWhile_eq_self fun c hc => hs c (by rwa [List.head?_reverse] at hc)
  rw [trimEnd, List.reverse_append,
    List.dropWhile_append_of_pos fun c hc => h c (List.mem_reverse.mp hc), hstop,
    List.reverse_reverse]

/-- Trimming takes blanks away down to a trimmed text. -/
theorem trim_append {before s after : Text} (hbefore : ∀ c ∈ before, blank c = true)
    (hs : Trimmed blank s) (hafter : ∀ c ∈ after, blank c = true) :
    trim blank (before ++ (s ++ after)) = s := by
  rw [trim, trimStart, List.dropWhile_append_of_pos hbefore]
  cases s with
  | nil =>
      have hnone : (after ++ []).dropWhile blank = [] := List.dropWhile_append_of_pos hafter
      rw [List.append_nil] at hnone
      rw [List.nil_append, hnone]
      rfl
  | cons c rest =>
      have hstop : (c :: rest ++ after).dropWhile blank = c :: rest ++ after :=
        dropWhile_eq_self hs.first
      rw [hstop, trimEnd_append hs.last hafter]

/-- Blanks in front make no difference to what trimming leaves. -/
theorem trim_blank_append {before : Text} (h : ∀ c ∈ before, blank c = true) (s : Text) :
    trim blank (before ++ s) = trim blank s := by
  obtain ⟨first, last, hs, hfirst, hlast⟩ := exists_trim_eq blank s
  have hblank : ∀ c ∈ before ++ first, blank c = true := fun c hc =>
    (List.mem_append.mp hc).elim (h c) (hfirst c)
  conv => lhs; rw [hs, ← List.append_assoc]
  exact trim_append hblank (trimmed_trim s) hlast

/-- Blanks behind make no difference to what trimming leaves. -/
theorem trim_append_blank {after : Text} (h : ∀ c ∈ after, blank c = true) (s : Text) :
    trim blank (s ++ after) = trim blank s := by
  obtain ⟨first, last, hs, hfirst, hlast⟩ := exists_trim_eq blank s
  have hblank : ∀ c ∈ last ++ after, blank c = true := fun c hc =>
    (List.mem_append.mp hc).elim (hlast c) (h c)
  conv => lhs; rw [hs, List.append_assoc, List.append_assoc]
  exact trim_append hfirst (trimmed_trim s) hblank

theorem trim_eq_nil_iff {s : Text} : trim blank s = [] ↔ ∀ c ∈ s, blank c = true := by
  constructor
  · intro hnil c hc
    obtain ⟨first, last, hs, hfirst, hlast⟩ := exists_trim_eq blank s
    rw [hnil, List.nil_append] at hs
    rw [hs] at hc
    exact (List.mem_append.mp hc).elim (hfirst c) (hlast c)
  · intro h
    have htrim := trim_blank_append h []
    rwa [List.append_nil] at htrim

end ArtifactSearch.Text
