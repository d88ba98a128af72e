import ArtifactSearch.Bytes.BitStream

/-!
# ArtifactSearch.Bytes.CodeTree

**Canonical prefix codes** as binary trees, built from the code lengths of the
symbols alone. On each level of the tree the codes that end there come first, in
symbol order, and the inner nodes follow; so a level is those leaves and then
the level below taken in pairs.
-/

namespace ArtifactSearch

/-- A prefix code. -/
inductive CodeTree where
  /-- No code starts like this. -/
  | unused
  /-- The code of `symbol` ends here. -/
  | leaf (symbol : Nat)
  /-- The next bit decides. -/
  | node (zero one : CodeTree)
  deriving Repr, DecidableEq

namespace CodeTree

/-- Trees of one level taken in pairs to the nodes above them. -/
def pairUp : List CodeTree → List CodeTree
  | [] => []
  | [tree] => [node tree unused]
  | zero :: one :: rest => node zero one :: pairUp rest

/-- The symbols with codes of the given length, as leaves. -/
def leaves (lengths : List Nat) (length : Nat) : List CodeTree :=
  (lengths.zipIdx.filter (fun entry => entry.1 = length)).map (fun entry => leaf entry.2)

/-- The trees `depth` levels above the longest codes, of length `longest`. -/
def level (lengths : List Nat) (longest : Nat) : (depth : Nat) → List CodeTree
  | 0 => leaves lengths longest
  | depth + 1 =>
    (if longest ≤ depth + 1 then [] else leaves lengths (longest - (depth + 1)))
      ++ pairUp (level lengths longest depth)

/-- Whether every sequence of bits starts with a code. -/
def isComplete : CodeTree → Bool
  | unused => false
  | leaf _ => true
  | node zero one => zero.isComplete && one.isComplete

/-- The length of the longest code. -/
def longest (lengths : List Nat) : Nat := lengths.foldl max 0

/-- The code with the given lengths, zero for symbols without a code, unless
there are more codes than fit. Without any code, one bit is still read. -/
def ofLengths? (lengths : List Nat) : Option CodeTree :=
  if longest lengths = 0 then some (node unused unused)
  else match level lengths (longest lengths) (longest lengths) with
    | [tree] => some tree
    | _ => none

/-- What comes of reading a symbol. -/
inductive Reading where
  /-- A symbol, and the stream behind its code. -/
  | found (symbol : Nat) (rest : BitStream)
  /-- The stream ends within a code. -/
  | ended
  /-- The bits start no code. -/
  | noCode
  deriving Repr, DecidableEq

/-- The next symbol of a stream. -/
def read (tree : CodeTree) (s : BitStream) : Reading :=
  match tree with
  | unused => .noCode
  | leaf symbol => .found symbol s
  | node zero one =>
    match s.next? with
    | none => .ended
    | some (bit, s) => if bit then one.read s else zero.read s

example : (ofLengths? [2, 1, 3, 3]).map isComplete = some true := by decide

end CodeTree

end ArtifactSearch
