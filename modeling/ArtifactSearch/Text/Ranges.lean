/-!
# ArtifactSearch.Text.Ranges

**Sets of code points as ascending ranges**, the form in which the character
properties are stored. A search stops at the first range beyond the code point,
so low code points are decided quickly.
-/

namespace ArtifactSearch.Text

/-- Whether `n` lies in one of the ranges, which must ascend. -/
def inRanges (ranges : List (Nat × Nat)) (n : Nat) : Bool :=
  match ranges with
  | [] => false
  | (first, last) :: rest =>
    if n < first then false else if n ≤ last then true else inRanges rest n

end ArtifactSearch.Text
