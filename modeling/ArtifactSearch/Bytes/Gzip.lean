import ArtifactSearch.Bytes.Inflate
import ArtifactSearch.Text.Quote

/-!
# ArtifactSearch.Bytes.Gzip

**Unpacking gzip data**: members one after another, with zero bytes allowed
behind each. A member is a header, deflated data, and the checksum and length
of what they unpack to. Nothing at all unpacks to nothing.
-/

namespace ArtifactSearch

/-- Why gzip data cannot be unpacked. -/
inductive GzipError where
  /-- A member that starts with other bytes than the two of the format. -/
  | notGzip (start : Bytes)
  /-- A compression method other than deflate. -/
  | method
  /-- The data end within a member. -/
  | truncated
  /-- The checksum is another one. -/
  | checksum
  /-- The length is another one. -/
  | length
  /-- The deflated data are wrong. -/
  | corrupt (fault : DeflateFault)
  deriving Repr, DecidableEq

/-- The wording of an error. -/
def GzipError.message : GzipError → Text
  | .notGzip start => "Not a gzipped file (".toList ++ Text.quoteBytes start ++ [')']
  | .method => "Unknown compression method".toList
  | .truncated => "Compressed file ended before the end-of-stream marker was reached".toList
  | .checksum => "CRC check failed".toList
  | .length => "Incorrect length of data produced".toList
  | .corrupt fault => "Error -3 while decompressing data: ".toList ++ fault.message.toList

namespace Gzip

/-- The checksum state after one more bit. -/
def shiftChecksum (c : UInt32) : UInt32 :=
  if c &&& 1 = 1 then (c >>> 1) ^^^ 0xEDB88320 else c >>> 1

/-- The checksum state after one more byte. -/
def stepChecksum (c : UInt32) (b : UInt8) : UInt32 :=
  let c := c ^^^ b.toUInt32
  shiftChecksum (shiftChecksum (shiftChecksum (shiftChecksum
    (shiftChecksum (shiftChecksum (shiftChecksum (shiftChecksum c)))))))

/-- The cyclic redundancy check of 32 bits. -/
def checksum (bytes : Bytes) : UInt32 := bytes.foldl stepChecksum 0xFFFFFFFF ^^^ 0xFFFFFFFF

/-- The number that bytes stand for, the least significant first. -/
def littleEndian (bytes : Bytes) : Nat := bytes.foldr (fun b n => b.toNat + 256 * n) 0

/-- The first `count` bytes and those behind them. -/
def exactly (count : Nat) (bytes : Bytes) : Except GzipError (Bytes × Bytes) :=
  if bytes.length < count then .error .truncated else .ok (bytes.take count, bytes.drop count)

/-- The bytes behind a text that ends with a zero byte, or none if it has no
end. -/
def skipText (bytes : Bytes) : Bytes := (bytes.dropWhile (· ≠ 0)).drop 1

/-- The bytes behind the header of a member. -/
def skipHeader (bytes : Bytes) : Except GzipError Bytes := do
  if bytes.take 2 ≠ [0x1F, 0x8B] then throw (.notGzip (bytes.take 2))
  let (fixed, rest) ← exactly 8 (bytes.drop 2)
  if fixed.getD 0 0 ≠ 8 then throw .method
  let flags := (fixed.getD 1 0).toNat
  let rest ← if flags.testBit 2 then do
      let (size, rest) ← exactly 2 rest
      let (_, rest) ← exactly (littleEndian size) rest
      pure rest
    else pure rest
  let rest := if flags.testBit 3 then skipText rest else rest
  let rest := if flags.testBit 4 then skipText rest else rest
  if flags.testBit 1 then return (← exactly 2 rest).2 else return rest

/-- One member unpacked, and the bytes behind it. -/
def member (bytes : Bytes) : Except GzipError (Bytes × Bytes) := do
  let packed ← skipHeader bytes
  let (out, rest) ← match inflate packed with
    | .ok result => pure result
    | .error .truncated => throw .truncated
    | .error (.corrupt fault) => throw (.corrupt fault)
  let (trailer, rest) ← exactly 8 rest
  if littleEndian (trailer.take 4) ≠ (checksum out).toNat then throw .checksum
  if littleEndian (trailer.drop 4) ≠ out.length % 0x100000000 then throw .length
  return (out, rest)

/-- The members of `bytes`, behind those unpacked so far, last first. Every
member takes bytes, so the length of the data is fuel enough. -/
def members : (fuel : Nat) → (done : List Bytes) → Bytes → Except GzipError (List Bytes)
  | 0, done, _ => .ok done.reverse
  | fuel + 1, done, bytes =>
    if bytes.isEmpty then .ok done.reverse
    else do
      let (out, rest) ← member bytes
      members fuel (out :: done) (rest.dropWhile (· = 0))

end Gzip

/-- The unpacked form of gzip data. -/
def gunzip (bytes : Bytes) : Except GzipError Bytes := do
  return (← Gzip.members bytes.length [] bytes).flatten

end ArtifactSearch
