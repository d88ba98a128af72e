import ArtifactSearch.Bytes.BitStream
import ArtifactSearch.Text.Basic

/-!
# ArtifactSearch.Bytes.Encoding

**Text encodings.** UTF-8 is read byte by byte with a state that tells how many
bytes the character under way still owes and which values the next one may
have; the first byte that does not fit, or an end with bytes owed, is the
fault. Overlong forms, surrogates and numbers beyond Unicode are ruled out by
the range of the second byte.

Where no fault may come up, `Utf8.decodeLossy` puts a replacement character for
each run of bytes that starts a character without finishing it, and for each
byte that starts none.
-/

namespace ArtifactSearch

/-- Why bytes are no text. -/
inductive EncodingFault where
  /-- A byte that starts no character. -/
  | invalidStart
  /-- A byte that does not continue the character under way. -/
  | invalidContinuation
  /-- The data end within a character. -/
  | unexpectedEnd
  /-- A byte that is not ASCII. -/
  | notAscii
  deriving Repr, DecidableEq

/-- The wording of a fault. -/
def EncodingFault.message : EncodingFault → String
  | .invalidStart => "invalid start byte"
  | .invalidContinuation => "invalid continuation byte"
  | .unexpectedEnd => "unexpected end of data"
  | .notAscii => "ordinal not in range(128)"

namespace Utf8

/-- The decoder between two bytes. -/
structure State where
  /-- How many bytes the character under way still owes. -/
  owed : Nat
  /-- The least value the next of them may have. -/
  low : Nat
  /-- The greatest value the next of them may have. -/
  high : Nat
  /-- The bits of the character under way. -/
  code : Nat
  /-- The finished characters, last first. -/
  done : Text
  deriving Repr, DecidableEq

/-- The decoder between two characters. -/
def State.between (done : Text) : State := ⟨0, 0, 0, 0, done⟩

/-- The effect of a byte between two characters. -/
def start (done : Text) (b : Nat) : Except EncodingFault State :=
  if b < 0x80 then .ok (.between (Char.ofNat b :: done))
  else if b < 0xC2 then .error .invalidStart
  else if b < 0xE0 then .ok ⟨1, 0x80, 0xBF, b - 0xC0, done⟩
  else if b < 0xF0 then
    .ok ⟨2, if b = 0xE0 then 0xA0 else 0x80, if b = 0xED then 0x9F else 0xBF, b - 0xE0, done⟩
  else if b < 0xF5 then
    .ok ⟨3, if b = 0xF0 then 0x90 else 0x80, if b = 0xF4 then 0x8F else 0xBF, b - 0xF0, done⟩
  else .error .invalidStart

/-- The effect of a byte. -/
def step (s : State) (byte : UInt8) : Except EncodingFault State :=
  let b := byte.toNat
  match s.owed with
  | 0 => start s.done b
  | owed + 1 =>
    if b < s.low || s.high < b then .error .invalidContinuation
    else
      let code := s.code * 64 + (b - 0x80)
      if owed = 0 then .ok (.between (Char.ofNat code :: s.done))
      else .ok ⟨owed, 0x80, 0xBF, code, s.done⟩

/-- The text that bytes encode. -/
def decode (bytes : Bytes) : Except EncodingFault Text := do
  let s ← bytes.foldlM step (.between [])
  if s.owed = 0 then return s.done.reverse else throw .unexpectedEnd

/-- What stands for bytes that encode nothing. -/
def replacement : Char := '\uFFFD'

/-- The effect of a byte where no fault may come up. -/
def stepLossy (s : State) (byte : UInt8) : State :=
  match step s byte with
  | .ok next => next
  | .error _ =>
    if s.owed = 0 then .between (replacement :: s.done)
    else match start (replacement :: s.done) byte.toNat with
      | .ok next => next
      | .error _ => .between (replacement :: replacement :: s.done)

/-- The text that bytes encode, with replacements for what is no text. -/
def decodeLossy (bytes : Bytes) : Text :=
  let s := bytes.foldl stepLossy (.between [])
  (if s.owed = 0 then s.done else replacement :: s.done).reverse

example : decodeLossy [0x41, 0xE2, 0x82, 0xC3, 0xA9, 0xFF] = "A\uFFFDé\uFFFD".toList := by decide

end Utf8

/-- A text encoding. -/
inductive Encoding where
  /-- UTF-8. -/
  | utf8
  /-- UTF-8, where one byte-order mark at the start does not count. -/
  | utf8Signed
  /-- ASCII. -/
  | ascii
  /-- Every byte is the character of its number. -/
  | latin1
  deriving Repr, DecidableEq

namespace Encoding

/-- The encoding of a name. -/
def ofName? (name : Text) : Option Encoding :=
  if name = "utf-8".toList then some .utf8
  else if name = "utf-8-sig".toList then some .utf8Signed
  else if name = "ascii".toList then some .ascii
  else if name = "latin-1".toList then some .latin1
  else none

/-- The byte-order mark in UTF-8. -/
def signature : Bytes := [0xEF, 0xBB, 0xBF]

/-- The text that bytes encode. -/
def decode (encoding : Encoding) (bytes : Bytes) : Except EncodingFault Text :=
  match encoding with
  | .utf8 => Utf8.decode bytes
  | .utf8Signed =>
    Utf8.decode (if signature.isPrefixOf bytes then bytes.drop signature.length else bytes)
  | .ascii =>
    if bytes.all (· < 0x80) then .ok (bytes.map (fun b => Char.ofNat b.toNat)) else .error .notAscii
  | .latin1 => .ok (bytes.map (fun b => Char.ofNat b.toNat))

end Encoding

end ArtifactSearch
