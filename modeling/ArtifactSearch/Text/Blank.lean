import ArtifactSearch.Text.Basic

/-!
# ArtifactSearch.Text.Blank

The two **blank classes**. They differ, and which one applies is part of each
rule that trims:

* `Blank.isEdge`, the Unicode space separators, the line terminators and the
  byte-order mark: what does not count at the edges of a line or a cell.
* `Blank.isSpace`, every character of Unicode white space and the four
  information separators: what surrounds and divides a query.

The information separators and the next-line character are data in a cell but
white space in a query; the byte-order mark is the other way round.
-/

namespace ArtifactSearch.Blank

/-- The space separators and the line and paragraph separators, beyond ASCII. -/
def isWideSpace (n : Nat) : Bool :=
  n == 0xA0 || n == 0x1680 || (0x2000 ≤ n && n ≤ 0x200A) || n == 0x2028 || n == 0x2029
    || n == 0x202F || n == 0x205F || n == 0x3000

/-- Blank at the edges of a line or a cell. -/
def isEdge (c : Char) : Bool :=
  let n := c.toNat
  n == 0x20 || (0x09 ≤ n && n ≤ 0x0D) || isWideSpace n || n == 0xFEFF

/-- White space around and inside a query. -/
def isSpace (c : Char) : Bool :=
  let n := c.toNat
  n == 0x20 || (0x09 ≤ n && n ≤ 0x0D) || (0x1C ≤ n && n ≤ 0x1F) || n == 0x85 || isWideSpace n

example : isEdge '\uFEFF' ∧ ¬ isSpace '\uFEFF' := by decide

example : isSpace '\x1C' ∧ isSpace '\u0085' ∧ ¬ isEdge '\x1C' ∧ ¬ isEdge '\u0085' := by decide

end ArtifactSearch.Blank
