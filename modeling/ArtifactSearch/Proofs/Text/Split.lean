import ArtifactSearch.Text.Basic

/-!
# ArtifactSearch.Proofs.Text.Split

**Splitting undoes joining**: pieces without the separator are found again
(`split_join`). The pieces that come of splitting never hold the separator, and
all their characters are the text's. What stands on either side of a separator is
split by itself (`split_append_cons`).
-/

namespace ArtifactSearch.Text

variable {separator : Char}

theorem split_of_not_mem {s : Text} (h : separator ∉ s) : split separator s = [s] := by
  induction s with
  | nil => rfl
  | cons c rest ih =>
      rw [List.mem_cons, not_or] at h
      rw [split_cons, if_neg (Ne.symm h.1), ih h.2]

/-- A separator divides the pieces before it from those behind it. -/
theorem split_append_cons (a b : Text) :
    split separator (a ++ separator :: b) = split separator a ++ split separator b := by
  induction a with
  | nil => rw [List.nil_append, split_cons, if_pos rfl, split_nil, List.singleton_append]
  | cons c rest ih =>
      obtain ⟨piece, others, hrest⟩ := List.exists_cons_of_ne_nil (split_ne_nil separator rest)
      rw [List.cons_append, split_cons, split_cons, ih, hrest]
      split <;> rfl

/-- A character behind the text that is no separator goes to the last piece. -/
theorem exists_split_concat {c : Char} (h : c ≠ separator) (s : Text) :
    ∃ pieces last, split separator s = pieces ++ [last] ∧
      split separator (s ++ [c]) = pieces ++ [last ++ [c]] := by
  induction s with
  | nil => exact ⟨[], [], rfl, by rw [List.nil_append, split_cons, if_neg h]; rfl⟩
  | cons d rest ih =>
      obtain ⟨pieces, last, hrest, hlonger⟩ := ih
      rw [List.cons_append, split_cons, split_cons, hrest, hlonger]
      split
      · exact ⟨[] :: pieces, last, rfl, rfl⟩
      · cases pieces with
        | nil => exact ⟨[], d :: last, rfl, rfl⟩
        | cons piece others => exact ⟨(d :: piece) :: others, last, rfl, rfl⟩

/-- But for separators, a joined text has the characters of its pieces. -/
theorem mem_join_iff {pieces : List Text} {c : Char} (h : c ≠ separator) :
    c ∈ join [separator] pieces ↔ ∃ piece ∈ pieces, c ∈ piece := by
  induction pieces with
  | nil => simp
  | cons piece rest ih =>
      cases rest with
      | nil => simp
      | cons next rest => rw [join_cons_cons, List.mem_append, List.mem_append, ih]; simp [h]

theorem split_join {pieces : List Text} (hne : pieces ≠ [])
    (h : ∀ piece ∈ pieces, separator ∉ piece) :
    split separator (join [separator] pieces) = pieces := by
  induction pieces with
  | nil => exact absurd rfl hne
  | cons piece rest ih =>
      have hpiece : separator ∉ piece := h piece (by simp)
      cases rest with
      | nil => rw [join_singleton, split_of_not_mem hpiece]
      | cons next rest =>
          have hrest := ih (by simp) (fun q hq => h q (by simp [hq]))
          rw [join_cons_cons, List.append_assoc, List.singleton_append,
            split_append_cons, split_of_not_mem hpiece, hrest, List.singleton_append]

/-- The pieces of a text that starts with another character: the character goes
to the first of the remaining pieces. -/
theorem split_cons_of_ne {c : Char} (h : c ≠ separator) (s : Text) :
    ∃ piece rest, split separator s = piece :: rest ∧
      split separator (c :: s) = (c :: piece) :: rest := by
  obtain ⟨piece, rest, hsplit⟩ := List.exists_cons_of_ne_nil (split_ne_nil separator s)
  exact ⟨piece, rest, hsplit, by rw [split_cons, if_neg h, hsplit]⟩

theorem mem_of_mem_split {s piece : Text} {c : Char} (hp : piece ∈ split separator s)
    (hc : c ∈ piece) : c ∈ s ∧ c ≠ separator := by
  induction s generalizing piece with
  | nil =>
      rw [split_nil, List.mem_singleton] at hp
      simp [hp] at hc
  | cons d s ih =>
      by_cases hd : d = separator
      · rw [split_cons, if_pos hd, List.mem_cons] at hp
        rcases hp with rfl | hp
        · simp at hc
        · exact (ih hp hc).imp_left (List.mem_cons_of_mem d)
      · obtain ⟨first, rest, hsplit, hcons⟩ := split_cons_of_ne hd s
        rw [hcons, List.mem_cons] at hp
        rcases hp with rfl | hp
        · rcases List.mem_cons.mp hc with rfl | hc
          · exact ⟨by simp, hd⟩
          · exact (ih (by simp [hsplit]) hc).imp_left (List.mem_cons_of_mem d)
        · exact (ih (by simp [hsplit, hp]) hc).imp_left (List.mem_cons_of_mem d)

end ArtifactSearch.Text
