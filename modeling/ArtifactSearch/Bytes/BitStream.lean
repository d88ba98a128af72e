/-!
# ArtifactSearch.Bytes.BitStream

**Bit streams** over bytes: the least significant bit of a byte comes first.
A stream is the bytes not yet used up and how many bits of the first of them
are used already, so that reading can go on bytewise at a byte boundary.
-/

namespace ArtifactSearch

/-- A sequence of bytes. -/
abbrev Bytes := List UInt8

/-- Bits still to be read. -/
structure BitStream where
  /-- The bytes with bits left. -/
  bytes : Bytes
  /-- The number of bits used of the first byte, below eight. -/
  used : Nat
  deriving Repr, DecidableEq

namespace BitStream

/-- All bits of `bytes`. -/
def ofBytes (bytes : Bytes) : BitStream := ⟨bytes, 0⟩

/-- The next bit and the stream behind it. -/
def next? (s : BitStream) : Option (Bool × BitStream) :=
  match s.bytes with
  | [] => none
  | b :: rest =>
    some (b.toNat.testBit s.used, if s.used = 7 then ⟨rest, 0⟩ else ⟨b :: rest, s.used + 1⟩)

/-- The next `count` bits as a number, the least significant first. -/
def take? (s : BitStream) : (count : Nat) → Option (Nat × BitStream)
  | 0 => some (0, s)
  | count + 1 => do
    let (bit, s) ← s.next?
    let (high, s) ← s.take? count
    return (2 * high + bit.toNat, s)

/-- The bytes from the next byte boundary on. -/
def remaining (s : BitStream) : Bytes := if s.used = 0 then s.bytes else s.bytes.drop 1

/-- The number of bits left. -/
def size (s : BitStream) : Nat := 8 * s.bytes.length - s.used

end BitStream

end ArtifactSearch
