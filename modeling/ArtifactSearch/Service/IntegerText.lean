import ArtifactSearch.Text.Integer

/-!
# ArtifactSearch.Service.IntegerText

**Integers that bodies give as texts.** The text is brought into a plain form
first (`plain?`), which must then be a numeral of a JSON document: digits
without needless zeros, perhaps behind a dash.

* Blanks around, a plus sign and zeros in front do not count. Underscores among
  the zeros do not count either, however many, and a dash behind the zeros is
  the sign.
* A point with nothing but zeros behind it, at least one, does not count.
* Single underscores between the other digits do not count.

A numeral of more than `maxLength` characters is too long, whatever follows it.
-/

namespace ArtifactSearch.Service.IntegerText

/-- Why a text stands for no integer. -/
inductive Fault where
  /-- It is written wrongly. -/
  | malformed
  /-- It is too long. -/
  | tooLong
  deriving Repr, DecidableEq

/-- What counts of a text behind a zero; `last` is the zero, or the underscore
behind it that was seen last. -/
def afterZeros (last : Char) : Text → Option Text
  | [] => some [last]
  | c :: rest =>
    if c = '0' || c = '_' then afterZeros c rest
    else if Text.isDigit c || c = '-' then some (c :: rest)
    else if c = '.' then some (last :: c :: rest)
    else none

/-- A text without zeros in front. -/
def withoutZeros : Text → Option Text
  | '0' :: rest => afterZeros '0' rest
  | c :: rest => if Text.isDigit c || c = '-' then some (c :: rest) else none
  | [] => none

/-- A text without a point and the zeros behind it. -/
def withoutPlaces (s : Text) : Text :=
  match s.dropWhile (· ≠ '.') with
  | '.' :: c :: places => if (c :: places).all (· = '0') then s.takeWhile (· ≠ '.') else s
  | _ => s

/-- Whether every underscore stands alone between other characters. -/
def areSingle : Text → Bool
  | [] => true
  | [c] => c ≠ '_'
  | c :: d :: rest => !(c = '_' && d = '_') && areSingle (d :: rest)

/-- A text without underscores that stand alone between other characters. -/
def withoutUnderscores (s : Text) : Text :=
  if s.head? ≠ some '_' && areSingle s then s.filter (· ≠ '_') else s

/-- The plain form of a text. -/
def plain? (s : Text) : Option Text := do
  let unsigned ← match Text.trim Text.isIntegerBlank s with
    | '+' :: '-' :: _ => none
    | '+' :: rest => withoutZeros rest
    | '-' :: rest => (withoutZeros rest).map ('-' :: ·)
    | rest => withoutZeros rest
  return withoutUnderscores (withoutPlaces unsigned)

/-- The largest number of characters of a numeral, the dash included. -/
def maxLength : Nat := 4300

/-- The number of digits that must be the whole text, in a numeral that starts
with `before` characters. -/
def natural (before : Nat) (s : Text) : Except Fault Nat :=
  if s = ['0'] then .ok 0
  else if s.head? = some '0' then .error .malformed
  else
    let digits := s.takeWhile Text.isDigit
    if maxLength < before + digits.length then .error .tooLong
    else if digits.isEmpty || digits.length < s.length then .error .malformed
    else .ok (digits.foldl (fun n d => 10 * n + (d.toNat - 0x30)) 0)

/-- The integer of a numeral. -/
def numeral : Text → Except Fault Int
  | '-' :: rest => (natural 1 rest).map (fun n => -(n : Int))
  | rest => (natural 0 rest).map (fun n => (n : Int))

/-- The integer that a text stands for. -/
def read (s : Text) : Except Fault Int :=
  match plain? s with
  | some plain => numeral plain
  | none => .error .malformed

example : (read " -1_0.00 ".toList).toOption = some (-10) ∧
    (read "0__7".toList).toOption = some 7 ∧ (read "0_-3".toList).toOption = some (-3) ∧
    (read "1.".toList).toOption = none := by decide

end ArtifactSearch.Service.IntegerText
