import ArtifactSearch.Text.Basic
import ArtifactSearch.Text.CaseTable

/-!
# ArtifactSearch.Text.Lower

**Lower-casing of whole texts**, by Unicode 14. It is not character by
character in two places:

* The dotted capital I becomes two characters, the small i and the combining
  dot above.
* The capital sigma becomes a final sigma at the end of a word: behind a cased
  character and not before one, looking through case-ignorable characters in
  both directions.

Single characters are alike in other terms: their small letters must be the same
or have the same capital (`alike`).

`lowerFrom` is the rule; `lower` runs it where a capital sigma stands and a
plain map elsewhere, which comes to the same (`lower_eq_lowerFrom`).
-/

namespace ArtifactSearch.Text

/-- The distance from a code point to its lower-case partner, zero if it has
none. -/
def lowerShift (runs : List LowerRun) (n : Nat) : Int :=
  match runs with
  | [] => 0
  | run :: rest =>
    if n < run.first then 0
    else if n ≤ run.last then if (n - run.first) % run.stride = 0 then run.shift else 0
    else lowerShift rest n

/-- The lower-case form of a single character other than the capital sigma. -/
def lowerChar (c : Char) : Text :=
  if c.toNat < 0x80 then [c.toLower]
  else if c = 'İ' then ['i', '\u0307']
  else [Char.ofNat (c.toNat + lowerShift lowerRuns c.toNat).toNat]

/-- The small letter of a character by itself; the dotted capital I has the small
i. -/
def smallLetter (c : Char) : Char := if c = 'Σ' then 'σ' else (lowerChar c).headD c

/-- Whether two characters are the same letter in any casing. -/
def alike (c d : Char) : Bool :=
  smallLetter c = smallLetter d || sameCapital.any (fun letters =>
    letters.contains (smallLetter c).toNat && letters.contains (smallLetter d).toNat)

/-- Whether case mapping looks through a character. -/
def isCaseIgnorable (c : Char) : Bool := inRanges caseIgnorableRanges c.toNat

/-- Whether a character is cased and not looked through. -/
def isCased (c : Char) : Bool := inRanges casedRanges c.toNat

/-- Whether the first character that is not looked through is cased. -/
def startsCased : Text → Bool
  | [] => false
  | c :: rest => if isCaseIgnorable c then startsCased rest else isCased c

/-- Whether the last character that is not looked through is cased, `before`
telling this of what stands in front. -/
def casedAfter (before : Bool) (c : Char) : Bool := if isCaseIgnorable c then before else isCased c

/-- The lower-case form of a capital sigma between what `before` tells of and
`rest`. -/
def lowerSigma (before : Bool) (rest : Text) : Char :=
  if before && !startsCased rest then 'ς' else 'σ'

/-- The lower-case form of a text in front of which `before` tells whether a
cased character stands. -/
def lowerFrom (before : Bool) : Text → Text
  | [] => []
  | c :: rest =>
    (if c = 'Σ' then [lowerSigma before rest] else lowerChar c)
      ++ lowerFrom (casedAfter before c) rest

/-- The lower-case form of a text. -/
def lower (s : Text) : Text :=
  if s.contains 'Σ' then lowerFrom false s else s.flatMap lowerChar

theorem lowerFrom_eq_flatMap {s : Text} (h : 'Σ' ∉ s) (before : Bool) :
    lowerFrom before s = s.flatMap lowerChar := by
  induction s generalizing before with
  | nil => rfl
  | cons c rest ih =>
    rw [List.mem_cons, not_or] at h
    rw [lowerFrom, if_neg (Ne.symm h.1), ih h.2, List.flatMap_cons]

theorem lower_eq_lowerFrom (s : Text) : lower s = lowerFrom false s := by
  unfold lower
  split
  · rfl
  · rename_i h
    exact (lowerFrom_eq_flatMap (by simpa using h) false).symm

example : lower "ΟΔΟΣ Σ ΣΑΣ. A'Σ-".toList = "οδος σ σας. a'ς-".toList := by decide

example : lower "İ".toList = ['i', '\u0307'] := by decide

example : alike 'ſ' 'S' = true ∧ alike 'ς' 'Σ' = true ∧ alike 'ı' 'İ' = true ∧
    alike 'ß' 's' = false := by decide

end ArtifactSearch.Text
