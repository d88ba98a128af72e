import ArtifactSearch.Text.Blank

/-!
# ArtifactSearch.Text.Integer

**Integers written in decimal**, as a user may write them: a sign, digits of
any script, single underscores between digits, blanks around. More than
`maxDigits` digits are refused.
-/

namespace ArtifactSearch.Text

/-- The zero of every script's decimal digits, by Unicode 14. The other nine
follow each. -/
def decimalZeros : List Nat :=
  [
    0x30, 0x660, 0x6F0, 0x7C0, 0x966, 0x9E6, 0xA66, 0xAE6, 0xB66, 0xBE6, 0xC66, 0xCE6, 0xD66,
    0xDE6, 0xE50, 0xED0, 0xF20, 0x1040, 0x1090, 0x17E0, 0x1810, 0x1946, 0x19D0, 0x1A80, 0x1A90,
    0x1B50, 0x1BB0, 0x1C40, 0x1C50, 0xA620, 0xA8D0, 0xA900, 0xA9D0, 0xA9F0, 0xAA50, 0xABF0,
    0xFF10, 0x104A0, 0x10D30, 0x11066, 0x110F0, 0x11136, 0x111D0, 0x112F0, 0x11450, 0x114D0,
    0x11650, 0x116C0, 0x11730, 0x118E0, 0x11950, 0x11C50, 0x11D50, 0x11DA0, 0x16A60, 0x16AC0,
    0x16B50, 0x1D7CE, 0x1D7D8, 0x1D7E2, 0x1D7EC, 0x1D7F6, 0x1E140, 0x1E2F0, 0x1E950, 0x1FBF0
  ]

/-- The value of a decimal digit of any script. -/
def digitValue? (c : Char) : Option Nat :=
  (decimalZeros.find? (fun first => first ≤ c.toNat && c.toNat ≤ first + 9)).map (c.toNat - ·)

/-- The largest number of digits that is read. -/
def maxDigits : Nat := 4300

/-- The digit values of a text of digits in which single underscores may stand
between two digits. -/
def digits? : Text → Option (List Nat)
  | [] => none
  | [c] => (digitValue? c).map ([·])
  | c :: '_' :: rest => do return (← digitValue? c) :: (← digits? rest)
  | c :: rest => do return (← digitValue? c) :: (← digits? rest)

/-- The number that digit values stand for. -/
def ofDigits (digits : List Nat) : Nat := digits.foldl (fun n d => 10 * n + d) 0

/-- Digits without a sign. -/
def natural? (s : Text) : Option Nat := do
  let digits ← digits? s
  if digits.length ≤ maxDigits then some (ofDigits digits) else none

/-- Blank around an integer: white space without the information separators. -/
def isIntegerBlank (c : Char) : Bool := Blank.isSpace c && !(0x1C ≤ c.toNat && c.toNat ≤ 0x1F)

/-- The integer a text stands for, if it stands for one. -/
def integer? (s : Text) : Option Int :=
  match trim isIntegerBlank s with
  | '-' :: rest => (natural? rest).map (fun n => -(n : Int))
  | '+' :: rest => (natural? rest).map (fun n => (n : Int))
  | rest => (natural? rest).map (fun n => (n : Int))

example : integer? " -1_0 ".toList = some (-10) ∧ integer? "1__0".toList = none := by decide

end ArtifactSearch.Text
