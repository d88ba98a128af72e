import ArtifactSearch.Bytes.Encoding

/-!
# ArtifactSearch.Service.Percent

**Percent-decoding** of addresses: a percent sign with two hexadecimal digits
stands for a byte, anything else for itself, and the bytes altogether are UTF-8.
A percent sign without two digits is nothing special.
-/

namespace ArtifactSearch.Service.Percent

/-- The value of a hexadecimal digit. -/
def hexValue? (c : Char) : Option Nat :=
  if '0' ≤ c && c ≤ '9' then some (c.toNat - 0x30)
  else if 'a' ≤ c && c ≤ 'f' then some (c.toNat - 0x61 + 10)
  else if 'A' ≤ c && c ≤ 'F' then some (c.toNat - 0x41 + 10)
  else none

/-- The byte that the two characters behind a percent sign stand for. -/
def byte? (high low : Char) : Option UInt8 := do
  return (16 * (← hexValue? high) + (← hexValue? low)).toUInt8

/-- The bytes that a text stands for. -/
def bytes : Text → Bytes
  | [] => []
  | [a] => String.utf8EncodeChar a
  | [a, b] => String.utf8EncodeChar a ++ String.utf8EncodeChar b
  | a :: b :: c :: rest =>
    match if a = '%' then byte? b c else none with
    | some byte => byte :: bytes rest
    | none => String.utf8EncodeChar a ++ bytes (b :: c :: rest)

/-- The text that a text stands for. -/
def decode (s : Text) : Text := if s.contains '%' then Utf8.decodeLossy (bytes s) else s

/-- A text without percent signs stands for itself. -/
theorem decode_eq_self {s : Text} (h : '%' ∉ s) : decode s = s := by
  unfold decode
  rw [if_neg (by simpa using h)]

example : decode "%C3%a9%2F%%zz%4".toList = "é/%%zz%4".toList := by decide

end ArtifactSearch.Service.Percent
