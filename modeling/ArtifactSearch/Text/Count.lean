/-!
# ArtifactSearch.Text.Count

**Counts and columns in reports**: a number with its digits in groups of three,
and text set to the left or the right of a column.
-/

namespace ArtifactSearch.Text

/-- Digits, last first, with a comma behind every third of them that others
follow. -/
def groupThrees : List Char → List Char
  | a :: b :: c :: d :: rest => a :: b :: c :: ',' :: groupThrees (d :: rest)
  | digits => digits

/-- A count with its digits in groups of three. -/
def grouped (n : Nat) : String :=
  String.ofList (groupThrees (Nat.toDigits 10 n).reverse).reverse

/-- A text at the left of a column of the given width. -/
def padRight (width : Nat) (s : String) : String := s.pushn ' ' (width - s.length)

/-- A text at the right of a column of the given width. -/
def padLeft (width : Nat) (s : String) : String := "".pushn ' ' (width - s.length) ++ s

example : groupThrees "1234567".toList = "123,456,7".toList := by decide

end ArtifactSearch.Text
