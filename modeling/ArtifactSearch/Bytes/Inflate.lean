import ArtifactSearch.Bytes.CodeTree

/-!
# ArtifactSearch.Bytes.Inflate

**Unpacking deflated data** (stored, fixed and dynamic blocks). Data can end too
early or be wrong; wrong data is noticed at the first bits that nothing valid
starts with, so which of the two is reported depends on which comes first.

The loops carry fuel, and the fuel they start with suffices: every block and
every symbol takes at least one bit.
-/

namespace ArtifactSearch

/-- What is wrong with deflated data. -/
inductive DeflateFault where
  /-- A block of the reserved type. -/
  | blockType
  /-- A stored block whose length and check differ. -/
  | storedLength
  /-- More literal or distance symbols than there are. -/
  | symbolCount
  /-- Lengths that make no code for the code lengths. -/
  | codeLengthSet
  /-- A repeated length without one before it, or beyond the last symbol. -/
  | lengthRepeat
  /-- No code for the end of the block. -/
  | endOfBlock
  /-- Lengths that make no code for literals and lengths. -/
  | literalSet
  /-- Lengths that make no code for distances. -/
  | distanceSet
  /-- Bits that are no literal or length. -/
  | literalCode
  /-- Bits that are no distance. -/
  | distanceCode
  /-- A distance beyond the start of the data. -/
  | distanceTooFar
  deriving Repr, DecidableEq

/-- The wording of a fault. -/
def DeflateFault.message : DeflateFault → String
  | .blockType => "invalid block type"
  | .storedLength => "invalid stored block lengths"
  | .symbolCount => "too many length or distance symbols"
  | .codeLengthSet => "invalid code lengths set"
  | .lengthRepeat => "invalid bit length repeat"
  | .endOfBlock => "invalid code -- missing end-of-block"
  | .literalSet => "invalid literal/lengths set"
  | .distanceSet => "invalid distances set"
  | .literalCode => "invalid literal/length code"
  | .distanceCode => "invalid distance code"
  | .distanceTooFar => "invalid distance too far back"

/-- Why data cannot be unpacked. -/
inductive InflateError where
  /-- The data end too early. -/
  | truncated
  /-- The data are wrong. -/
  | corrupt (fault : DeflateFault)
  deriving Repr, DecidableEq

namespace Inflate

/-- Reading from a bit stream. -/
abbrev Read := StateT BitStream (Except InflateError)

/-- The next `count` bits as a number. -/
def bits (count : Nat) : Read Nat := fun s =>
  match s.take? count with
  | some result => .ok result
  | none => .error .truncated

/-- The next symbol of a code; `fault` is reported for bits that start none. -/
def symbol (tree : CodeTree) (fault : DeflateFault) : Read Nat := fun s =>
  match tree.read s with
  | .found symbol rest => .ok (symbol, rest)
  | .ended => .error .truncated
  | .noCode => .error (.corrupt fault)

/-- Failure because of wrong data. -/
def fail {α : Type} (fault : DeflateFault) : Read α := throw (.corrupt fault)

/-- What lengths stand for: the least length, and how many further bits follow
to add to it. -/
def lengthCodes : List (Nat × Nat) :=
  [
    (3, 0), (4, 0), (5, 0), (6, 0), (7, 0), (8, 0), (9, 0), (10, 0), (11, 1), (13, 1), (15, 1),
    (17, 1), (19, 2), (23, 2), (27, 2), (31, 2), (35, 3), (43, 3), (51, 3), (59, 3), (67, 4),
    (83, 4), (99, 4), (115, 4), (131, 5), (163, 5), (195, 5), (227, 5), (258, 0)
  ]

/-- What distances stand for: the least distance, and how many further bits
follow to add to it. -/
def distanceCodes : List (Nat × Nat) :=
  [
    (1, 0), (2, 0), (3, 0), (4, 0), (5, 1), (7, 1), (9, 2), (13, 2), (17, 3), (25, 3), (33, 4),
    (49, 4), (65, 5), (97, 5), (129, 6), (193, 6), (257, 7), (385, 7), (513, 8), (769, 8),
    (1025, 9), (1537, 9), (2049, 10), (3073, 10), (4097, 11), (6145, 11), (8193, 12), (12289, 12),
    (16385, 13), (24577, 13)
  ]

/-- The output with `count` more bytes, each the one `distance` places before. -/
def copyBack (distance : Nat) (out : Array UInt8) : (count : Nat) → Array UInt8
  | 0 => out
  | count + 1 => copyBack distance (out.push (out.getD (out.size - distance) 0)) count

/-- The value of a symbol with further bits. -/
def extended (codes : List (Nat × Nat)) (index : Nat) (fault : DeflateFault) : Read Nat :=
  match codes[index]? with
  | some (least, further) => return least + (← bits further)
  | none => fail fault

/-- The symbols of a block up to its end, unpacked behind `out`. -/
def symbols (literals distances : CodeTree) :
    (fuel : Nat) → (out : Array UInt8) → Read (Array UInt8)
  | 0, _ => throw .truncated
  | fuel + 1, out => do
    let literal ← symbol literals .literalCode
    if literal < 256 then symbols literals distances fuel (out.push literal.toUInt8)
    else if literal = 256 then return out
    else
      let length ← extended lengthCodes (literal - 257) .literalCode
      let code ← symbol distances .distanceCode
      let distance ← extended distanceCodes code .distanceCode
      if out.size < distance then fail .distanceTooFar
      else symbols literals distances fuel (copyBack distance out length)

/-- The order in which the lengths of the code-length code are given. -/
def codeLengthOrder : List Nat := [16, 17, 18, 0, 8, 7, 9, 6, 10, 5, 11, 4, 12, 3, 13, 2, 14, 1, 15]

/-- The given number of three-bit lengths. -/
def shortLengths : (count : Nat) → Read (List Nat)
  | 0 => return []
  | count + 1 => do
    let length ← bits 3
    return length :: (← shortLengths count)

/-- The code of the code lengths. Without any code, every bit stands for the
length zero. -/
def codeLengthTree (given : List Nat) : Read CodeTree := do
  let pairs := codeLengthOrder.zip given
  let lengths := (List.range 19).map (fun i => (pairs.lookup i).getD 0)
  if CodeTree.longest lengths = 0 then return .node (.leaf 0) (.leaf 0)
  match CodeTree.ofLengths? lengths with
  | some tree => if tree.isComplete then return tree else fail .codeLengthSet
  | none => fail .codeLengthSet

/-- Code lengths up to the given total, behind those read so far, last first. -/
def codeLengths (tree : CodeTree) (total : Nat) :
    (fuel : Nat) → (done : List Nat) → Read (List Nat)
  | 0, _ => throw .truncated
  | fuel + 1, done => do
    if total ≤ done.length then return done.reverse
    let code ← symbol tree .codeLengthSet
    if code < 16 then codeLengths tree total fuel (code :: done)
    else
      let further ← bits (if code = 16 then 2 else if code = 17 then 3 else 7)
      let count := further + (if code = 18 then 11 else 3)
      let length ← match code, done with
        | 16, previous :: _ => pure previous
        | 16, [] => fail .lengthRepeat
        | _, _ => pure 0
      if total < done.length + count then fail .lengthRepeat
      else codeLengths tree total fuel (List.replicate count length ++ done)

/-- The code of some symbols. Only a single code of one bit may leave bits
unused. -/
def codeOf (lengths : List Nat) (fault : DeflateFault) : Read CodeTree :=
  match CodeTree.ofLengths? lengths with
  | some tree =>
    if tree.isComplete || CodeTree.longest lengths ≤ 1 then return tree else fail fault
  | none => fail fault

/-- The codes at the start of a dynamic block: for literals, then for
distances. -/
def dynamicCodes : Read (CodeTree × CodeTree) := do
  let literalCount := (← bits 5) + 257
  let distanceCount := (← bits 5) + 1
  let lengthCount := (← bits 4) + 4
  if 286 < literalCount || 30 < distanceCount then fail .symbolCount
  let tree ← codeLengthTree (← shortLengths lengthCount)
  let total := literalCount + distanceCount
  let lengths ← codeLengths tree total (total + 1) []
  if lengths.getD 256 0 = 0 then fail .endOfBlock
  let literals ← codeOf (lengths.take literalCount) .literalSet
  let distances ← codeOf (lengths.drop literalCount) .distanceSet
  return (literals, distances)

/-- The code of literals in a fixed block. -/
def fixedLiterals : List Nat :=
  List.replicate 144 8 ++ List.replicate 112 9 ++ List.replicate 24 7 ++ List.replicate 8 8

/-- The code of distances in a fixed block. -/
def fixedDistances : List Nat := List.replicate 32 5

/-- A stored block, behind `out`: bytes from the next byte boundary. -/
def stored (out : Array UInt8) : Read (Array UInt8) := do
  set (BitStream.ofBytes (← get).remaining)
  let length ← bits 16
  let check ← bits 16
  if length + check ≠ 0xFFFF then fail .storedLength
  let bytes := (← get).remaining
  if bytes.length < length then throw .truncated
  set (BitStream.ofBytes (bytes.drop length))
  return out ++ (bytes.take length).toArray

/-- One block, behind `out`; also whether it is the last one. -/
def block (out : Array UInt8) : Read (Bool × Array UInt8) := do
  let last ← bits 1
  let type ← bits 2
  let fuel := (← get).size + 1
  let out ← match type with
    | 0 => stored out
    | 1 =>
      let literals ← codeOf fixedLiterals .literalSet
      let distances ← codeOf fixedDistances .distanceSet
      symbols literals distances fuel out
    | 2 =>
      let (literals, distances) ← dynamicCodes
      symbols literals distances fuel out
    | _ => fail .blockType
  return (last = 1, out)

/-- All blocks up to the last one, behind `out`. -/
def blocks : (fuel : Nat) → (out : Array UInt8) → Read (Array UInt8)
  | 0, _ => throw .truncated
  | fuel + 1, out => do
    let (last, out) ← block out
    if last then return out else blocks fuel out

end Inflate

/-- The unpacked form of deflated data, and the bytes behind them. -/
def inflate (packed : Bytes) : Except InflateError (Bytes × Bytes) := do
  let s := BitStream.ofBytes packed
  let (out, rest) ← (Inflate.blocks (s.size + 1) #[]).run s
  return (out.toList, rest.remaining)

end ArtifactSearch
