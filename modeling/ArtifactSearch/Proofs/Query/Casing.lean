import ArtifactSearch.Proofs.Query.Reading
import ArtifactSearch.Proofs.Text.Casing

/-!
# ArtifactSearch.Proofs.Query.Casing

**The case of ASCII letters in a query does not count.** A query in small ASCII letters is read
as the query itself (`read_map_toLower`): the keyword is found in the same place
(`afterKeyword?_map_toLower`), the name and the further text end at the same white space, and
all that is kept of them is in lower case. So all queries that agree in small letters are read
alike, as the same kind of query for the same texts (`evaluate_eq_of_map_toLower_eq`).
-/

namespace ArtifactSearch.Query

/-! ### The keyword -/

theorem isKeywordLetter_toLower (letter c : Char) :
    isKeywordLetter letter c.toLower = isKeywordLetter letter c := by
  have hdotted : c.toLower = 'İ' ↔ c = 'İ' := Text.toLower_eq_iff (by decide +kernel) c
  have hdotless : c.toLower = 'ı' ↔ c = 'ı' := Text.toLower_eq_iff (by decide +kernel) c
  simp only [isKeywordLetter, Text.toLower_toLower, hdotted, hdotless]

theorem toLower_eq_equals_iff (c : Char) : c.toLower = '=' ↔ c = '=' :=
  Text.toLower_eq_iff (by decide +kernel) c

/-- A text of six characters and more has the keyword in front if the sixth is the equals
sign. -/
theorem afterKeyword?_cons (i n d e x c : Char) (rest : Text) :
    afterKeyword? (i :: n :: d :: e :: x :: c :: rest) =
      if c = '=' ∧ isKeywordLetter 'i' i ∧ isKeywordLetter 'n' n ∧ isKeywordLetter 'd' d ∧
          isKeywordLetter 'e' e ∧ isKeywordLetter 'x' x then some rest else none := by
  by_cases hc : c = '='
  · subst hc
    simp [afterKeyword?, and_assoc]
  · simp [afterKeyword?, hc]

theorem afterKeyword?_map_toLower (s : Text) :
    afterKeyword? (s.map Char.toLower) = (afterKeyword? s).map (List.map Char.toLower) := by
  match s with
  | i :: n :: d :: e :: x :: c :: rest =>
      simp only [List.map_cons, afterKeyword?_cons, toLower_eq_equals_iff, isKeywordLetter_toLower]
      split <;> rfl
  | [] | [_] | [_, _] | [_, _, _] | [_, _, _, _] | [_, _, _, _, _] => rfl

/-! ### The form and the reading -/

theorem indexForm?_map_toLower (s : Text) :
    indexForm? (s.map Char.toLower)
      = (indexForm? s).map (Prod.map (List.map Char.toLower) (List.map Char.toLower)) := by
  have hspace : Blank.isSpace ∘ Char.toLower = Blank.isSpace := funext Text.isSpace_toLower
  have hname : (fun c => !Blank.isSpace c) ∘ Char.toLower = fun c => !Blank.isSpace c :=
    funext fun c => by rw [Function.comp_apply, Text.isSpace_toLower]
  unfold indexForm?
  rw [afterKeyword?_map_toLower]
  cases afterKeyword? s with
  | none => rfl
  | some rest =>
      simp only [Option.map_some, Option.bind_eq_bind, Option.bind_some, List.takeWhile_map,
        List.dropWhile_map, hspace, hname, List.isEmpty_map, List.contains_eq_mem,
        Text.newline_mem_map_toLower]
      split <;> rfl

/-- A query in small letters is read as the query itself. -/
theorem read_map_toLower (text : Text) : read (text.map Char.toLower) = read text := by
  unfold read
  dsimp only
  rw [Text.trim_map_toLower, List.isEmpty_map, indexForm?_map_toLower]
  cases indexForm? (Text.trim Blank.isSpace text) with
  | none => rw [Option.map_none, Text.lower_map_toLower]
  | some parts =>
      obtain ⟨name, further⟩ := parts
      simp only [Option.map_some, Prod.map_apply, Text.trim_map_toLower, Text.lower_map_toLower]

/-- **The case of ASCII letters in a query does not count.** Two queries of one length that
differ in nothing but that are read as the same query, whichever kind it is, and have the same
results over every index map. -/
theorem evaluate_eq_of_map_toLower_eq {query other : Text}
    (h : query.map Char.toLower = other.map Char.toLower) :
    read query = read other ∧
      ∀ indexes : IndexMap, evaluate query indexes = evaluate other indexes := by
  have hread : read query = read other := by
    rw [← read_map_toLower query, h, read_map_toLower]
  exact ⟨hread, fun indexes => by rw [evaluate, hread, evaluate]⟩

/-- Keyword, name and further text in two casings, with a capital sigma between letters of either
case and another one at the end of a word. -/
theorem evaluate_eq_of_map_toLower_eq_sigma :
    let query := " iNDEX=Users\taΣB ΟΔΟΣ".toList
    let other := " Index=uSERS\tAΣb ΟΔΟΣ".toList
    let record : Record := [("Name".toList, "the AΣB οδος".toList)]
    let indexes : IndexMap :=
      [("USERS".toList, ⟨"USERS".toList, ["Name".toList], [record, []], "USERS.csv".toList⟩)]
    query.map Char.toLower = other.map Char.toLower ∧
      read other = .within "users".toList "aσb οδος".toList ∧
      evaluate other indexes = [⟨"USERS".toList, record⟩] := by
  intro query other record indexes
  have h : query.map Char.toLower = other.map Char.toLower := by decide
  obtain ⟨hread, hevaluate⟩ := evaluate_eq_of_map_toLower_eq h
  exact ⟨h, hread.symm.trans (by decide +kernel), (hevaluate indexes).symm.trans (by decide +kernel)⟩

end ArtifactSearch.Query
