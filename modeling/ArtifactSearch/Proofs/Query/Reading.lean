import ArtifactSearch.Proofs.Text.Trim
import ArtifactSearch.Query

/-!
# ArtifactSearch.Proofs.Query.Reading

**The grammar of query texts.** A text is `Scoped` if it is the keyword, a name
and a further text, where the name is not empty, has no white space and goes as
far as it can. A text is so in at most one way (`Scoped.unique`), and `scope?`
finds it.

`read` follows this grammar but for one thing: a scoped text whose further text,
once trimmed, has a line feed counts as plain (`read_of_scoped`). Trying shorter
names or gaps would not help, since a text that `Fits` the form at all is found to
(`isSome_indexForm?_iff`).
-/

namespace ArtifactSearch.Query

/-! ### The grammar -/

/-- Six characters that spell the keyword with its equals sign, each letter in
any casing. -/
def IsKeyword (keyword : Text) : Prop :=
  ∃ i n d e x, keyword = [i, n, d, e, x, '='] ∧ isKeywordLetter 'i' i = true ∧
    isKeywordLetter 'n' n = true ∧ isKeywordLetter 'd' d = true ∧
    isKeywordLetter 'e' e = true ∧ isKeywordLetter 'x' x = true

/-- The text names an index and goes on with `further`. -/
structure Scoped (s name further : Text) : Prop where
  /-- The keyword stands first, then the name, then the further text. -/
  spelled : ∃ keyword, IsKeyword keyword ∧ s = keyword ++ (name ++ further)
  /-- There is a name. -/
  occupied : name ≠ []
  /-- The name has no white space. -/
  unspaced : ∀ c ∈ name, Blank.isSpace c = false
  /-- The name ends only at white space. -/
  maximal : ∀ c, further.head? = some c → Blank.isSpace c = true

theorem afterKeyword?_eq_some_iff {s rest : Text} :
    afterKeyword? s = some rest ↔ ∃ keyword, IsKeyword keyword ∧ s = keyword ++ rest := by
  constructor
  · intro h
    unfold afterKeyword? at h
    split at h
    · split at h
      · rename_i i n d e x tail hletters
        simp only [Bool.and_eq_true] at hletters
        obtain ⟨⟨⟨⟨hi, hn⟩, hd⟩, he⟩, hx⟩ := hletters
        cases h
        exact ⟨_, ⟨i, n, d, e, x, rfl, hi, hn, hd, he, hx⟩, rfl⟩
      · cases h
    · cases h
  · rintro ⟨keyword, ⟨i, n, d, e, x, rfl, hi, hn, hd, he, hx⟩, rfl⟩
    simp [afterKeyword?, hi, hn, hd, he, hx]

/-! ### Finding the name -/

/-- The name and the further text of a scoped text. -/
def scope? (s : Text) : Option (Text × Text) :=
  (afterKeyword? s).bind fun rest =>
    let name := rest.takeWhile (fun c => !Blank.isSpace c)
    if name.isEmpty then none else some (name, rest.dropWhile (fun c => !Blank.isSpace c))

/-- A name and what stands behind it come apart at the first white space. -/
theorem takeWhile_dropWhile_append {name further : Text}
    (hname : ∀ c ∈ name, Blank.isSpace c = false)
    (hfurther : ∀ c, further.head? = some c → Blank.isSpace c = true) :
    (name ++ further).takeWhile (fun c => !Blank.isSpace c) = name ∧
      (name ++ further).dropWhile (fun c => !Blank.isSpace c) = further := by
  have hall : ∀ c ∈ name, (!Blank.isSpace c) = true := fun c hc => by simp [hname c hc]
  rw [List.takeWhile_append_of_pos hall, List.dropWhile_append_of_pos hall]
  cases further with
  | nil => simp
  | cons c rest =>
      have hc : Blank.isSpace c = true := hfurther c rfl
      simp [hc]

theorem scope?_eq_some_iff {s name further : Text} :
    scope? s = some (name, further) ↔ Scoped s name further := by
  constructor
  · intro h
    obtain ⟨rest, hrest, hscope⟩ := Option.bind_eq_some_iff.mp h
    obtain ⟨keyword, hkeyword, rfl⟩ := afterKeyword?_eq_some_iff.mp hrest
    dsimp only at hscope
    split at hscope
    · cases hscope
    · rename_i hname
      cases hscope
      refine ⟨⟨keyword, hkeyword, by rw [List.takeWhile_append_dropWhile]⟩, ?_, ?_, ?_⟩
      · simpa using hname
      · intro c hc
        simpa using List.all_eq_true.mp List.all_takeWhile c hc
      · intro c hc
        simpa using Text.head?_dropWhile hc
  · rintro ⟨⟨keyword, hkeyword, rfl⟩, hname, hunspaced, hmaximal⟩
    obtain ⟨htake, hdrop⟩ := takeWhile_dropWhile_append hunspaced hmaximal
    rw [scope?, afterKeyword?_eq_some_iff.mpr ⟨keyword, hkeyword, rfl⟩, Option.bind_some]
    dsimp only
    rw [htake, hdrop, if_neg (by simpa using hname)]

theorem scope?_eq_none {s : Text} (h : ∀ name further, ¬ Scoped s name further) :
    scope? s = none := by
  cases hscope : scope? s with
  | none => rfl
  | some pair => exact absurd (scope?_eq_some_iff.mp hscope) (h pair.1 pair.2)

/-- A text is scoped in one way only. -/
theorem Scoped.unique {s name name' further further' : Text} (h : Scoped s name further)
    (h' : Scoped s name' further') : name = name' ∧ further = further' := by
  have hpair := (scope?_eq_some_iff.mpr h).symm.trans (scope?_eq_some_iff.mpr h')
  exact Prod.mk.inj (Option.some.inj hpair)

theorem Scoped.ne_nil {s name further : Text} (h : Scoped s name further) : s ≠ [] := by
  obtain ⟨keyword, ⟨i, n, d, e, x, rfl, -⟩, rfl⟩ := h.spelled
  simp

/-- In a trimmed text, what goes on behind the name ends in no white space. -/
theorem Scoped.trim_further {s name further : Text} (h : Scoped s name further)
    (hs : Text.Trimmed Blank.isSpace s) :
    Text.trim Blank.isSpace further = further.dropWhile Blank.isSpace := by
  obtain ⟨keyword, -, hspelled⟩ := h.spelled
  refine Text.trim_eq_trimStart fun c hc => hs.last c ?_
  rw [hspelled, List.getLast?_append, List.getLast?_append, hc]
  rfl

/-! ### The form and the grammar -/

theorem indexForm?_eq (s : Text) :
    indexForm? s = (scope? s).bind fun pair =>
      let further := pair.2.dropWhile Blank.isSpace
      if further.contains '\n' then none else some (pair.1, further) := by
  unfold indexForm? scope?
  cases afterKeyword? s with
  | none => rfl
  | some rest =>
      simp only [Option.bind_eq_bind, Option.bind_some]
      by_cases hname : (rest.takeWhile fun c => !Blank.isSpace c).isEmpty = true
      · simp [hname]
      · simp [hname]

/-- One way of fitting a text to the `index=` form. The name and the gap need not
go as far as they can, but the further text is on one line. -/
structure Fits (s name gap further : Text) : Prop where
  /-- The parts stand in this order behind the keyword. -/
  spelled : ∃ keyword, IsKeyword keyword ∧ s = keyword ++ (name ++ (gap ++ further))
  /-- There is a name. -/
  occupied : name ≠ []
  /-- The name has no white space. -/
  unspaced : ∀ c ∈ name, Blank.isSpace c = false
  /-- The gap has nothing else. -/
  blank : ∀ c ∈ gap, Blank.isSpace c = true
  /-- The further text is on one line. -/
  oneLine : '\n' ∉ further

/-- However early a gap starts and ends, the longest name and the longest gap
leave no line feed that the further text did not have. -/
theorem newline_not_mem_dropWhile {gap further : Text} (hgap : ∀ c ∈ gap, Blank.isSpace c = true)
    (hfurther : '\n' ∉ further) :
    '\n' ∉ ((gap ++ further).dropWhile (fun c => !Blank.isSpace c)).dropWhile Blank.isSpace := by
  intro hfeed
  have hsub : ((gap ++ further).dropWhile (fun c => !Blank.isSpace c)).dropWhile Blank.isSpace
      ⊆ further := by
    cases gap with
    | nil => exact ((List.dropWhile_sublist _).trans (List.dropWhile_sublist _)).subset
    | cons c rest =>
        have hc : Blank.isSpace c = true := hgap c List.mem_cons_self
        rw [List.cons_append, List.dropWhile_cons_of_neg (by simp [hc]), ← List.cons_append,
          List.dropWhile_append_of_pos hgap]
        exact (List.dropWhile_sublist _).subset
  exact hfurther (hsub hfeed)

/-- Taking the longest name and then the longest gap misses nothing: it succeeds
whenever the text fits the form in any way. -/
theorem isSome_indexForm?_iff {s : Text} :
    (indexForm? s).isSome = true ↔ ∃ name gap further, Fits s name gap further := by
  constructor
  · intro h
    obtain ⟨⟨name, further⟩, hform⟩ := Option.isSome_iff_exists.mp h
    rw [indexForm?_eq] at hform
    obtain ⟨⟨name', rest⟩, hscope, hfeed⟩ := Option.bind_eq_some_iff.mp hform
    obtain ⟨⟨keyword, hkeyword, hspelled⟩, hname, hunspaced, -⟩ := scope?_eq_some_iff.mp hscope
    refine ⟨name', rest.takeWhile Blank.isSpace, rest.dropWhile Blank.isSpace,
      ⟨keyword, hkeyword, ?_⟩, hname, hunspaced, ?_, ?_⟩
    · rw [List.takeWhile_append_dropWhile, hspelled]
    · exact fun c hc => List.all_eq_true.mp List.all_takeWhile c hc
    · intro hmem
      simp [hmem] at hfeed
  · rintro ⟨name, gap, further, ⟨keyword, hkeyword, rfl⟩, hname, hunspaced, hblank, hline⟩
    have hall : ∀ c ∈ name, (!Blank.isSpace c) = true := fun c hc => by simp [hunspaced c hc]
    -- A shorter name would be the beginning of the longest one.
    have hlongest : ((name ++ (gap ++ further)).takeWhile fun c => !Blank.isSpace c) ≠ [] := by
      rw [List.takeWhile_append_of_pos hall]
      simp [hname]
    have hfeed := newline_not_mem_dropWhile hblank hline
    rw [indexForm?_eq, scope?, afterKeyword?_eq_some_iff.mpr ⟨keyword, hkeyword, rfl⟩,
      Option.bind_some]
    dsimp only
    rw [if_neg (by simpa using hlongest), Option.bind_some, List.dropWhile_append_of_pos hall,
      if_neg (by simpa using hfeed)]
    rfl

/-! ### Reading by the grammar -/

theorem read_of_nil {text : Text} (h : Text.trim Blank.isSpace text = []) :
    read text = .all := by
  simp [read, h]

/-- A text that is not of the `index=` form is looked for as a whole. -/
theorem read_of_indexForm?_eq_none {text : Text} (hne : Text.trim Blank.isSpace text ≠ [])
    (h : indexForm? (Text.trim Blank.isSpace text) = none) :
    read text = .anywhere (Text.lower (Text.trim Blank.isSpace text)) := by
  unfold read
  dsimp only
  rw [if_neg (by simpa using hne), h]

theorem read_of_plain {text : Text} (hne : Text.trim Blank.isSpace text ≠ [])
    (h : ∀ name further, ¬ Scoped (Text.trim Blank.isSpace text) name further) :
    read text = .anywhere (Text.lower (Text.trim Blank.isSpace text)) :=
  read_of_indexForm?_eq_none hne (by rw [indexForm?_eq, scope?_eq_none h, Option.bind_none])

/-- A scoped text asks for the further text within one index, unless it goes on
over a line feed. -/
theorem read_of_scoped {text name further : Text}
    (h : Scoped (Text.trim Blank.isSpace text) name further) :
    read text =
      if '\n' ∈ Text.trim Blank.isSpace further then
        .anywhere (Text.lower (Text.trim Blank.isSpace text))
      else .within (Text.lower name) (Text.lower (Text.trim Blank.isSpace further)) := by
  have hfurther := h.trim_further (Text.trimmed_trim text)
  have hform := indexForm?_eq (Text.trim Blank.isSpace text)
  rw [scope?_eq_some_iff.mpr h, Option.bind_some] at hform
  dsimp only at hform
  rw [← hfurther] at hform
  unfold read
  dsimp only
  rw [if_neg (by simpa using h.ne_nil), hform]
  by_cases hfeed : '\n' ∈ Text.trim Blank.isSpace further
  · rw [if_pos (by simpa using hfeed), if_pos hfeed]
  · rw [if_neg (by simpa using hfeed), if_neg hfeed]
    dsimp only
    rw [Text.trim_eq_self (Text.trimmed_trim further)]

end ArtifactSearch.Query
