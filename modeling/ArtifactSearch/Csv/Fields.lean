import ArtifactSearch.Text.Blank

/-!
# ArtifactSearch.Csv.Fields

**Fields of one line**, by a scanner over the characters from left to right.

A quote opens a quoted stretch, where commas are data; a doubled quote in it is
one literal quote, a single one closes it. Quotes may open and close in the
middle of a field and never count as data themselves. What follows a quote
inside a quoted stretch decides its meaning, so that moment is a state of its
own, `Mode.closing`. Every field is trimmed of edge blanks, quoted ones too.

The scanner is a left fold, so scanning `a ++ b` is scanning `b` from where `a`
ended (`Scan.run_append`).
-/

namespace ArtifactSearch.Csv

/-- Where the scanner stands with regard to quotes. -/
inductive Mode where
  /-- Outside quotes: a comma ends the field. -/
  | bare
  /-- Inside quotes: a comma is data. -/
  | quoted
  /-- Just behind a quote inside quotes: another quote makes a literal one,
  anything else stands outside quotes. -/
  | closing
  deriving Repr, DecidableEq

/-- The scanner's state: the mode, the characters of the field under way, last
first, and the finished fields, last first. -/
structure Scan where
  /-- Where the scanner stands with regard to quotes. -/
  mode : Mode
  /-- The field under way, its last character first. -/
  current : Text
  /-- The finished fields, the last one first. -/
  done : List Text
  deriving Repr, DecidableEq

namespace Scan

/-- The scanner at the start of a line. -/
def start : Scan := ⟨.bare, [], []⟩

/-- The field under way, trimmed. -/
def field (s : Scan) : Text := Text.trim Blank.isEdge s.current.reverse

/-- The effect of a character that stands outside quotes. -/
def stepBare (s : Scan) (c : Char) : Scan :=
  if c = '"' then ⟨.quoted, s.current, s.done⟩
  else if c = ',' then ⟨.bare, [], s.field :: s.done⟩
  else ⟨.bare, c :: s.current, s.done⟩

/-- The effect of one character. -/
def step (s : Scan) (c : Char) : Scan :=
  match s.mode with
  | .bare => s.stepBare c
  | .quoted =>
    if c = '"' then ⟨.closing, s.current, s.done⟩ else ⟨.quoted, c :: s.current, s.done⟩
  | .closing =>
    if c = '"' then ⟨.quoted, '"' :: s.current, s.done⟩ else s.stepBare c

/-- The state after all characters of `line`. -/
def run (s : Scan) (line : Text) : Scan := line.foldl step s

@[simp] theorem run_nil (s : Scan) : s.run [] = s := rfl

@[simp] theorem run_cons (s : Scan) (c : Char) (line : Text) :
    s.run (c :: line) = (s.step c).run line := rfl

theorem run_append (s : Scan) (a b : Text) : s.run (a ++ b) = (s.run a).run b :=
  List.foldl_append

/-- All fields, once the line has ended. An open quote ends with the line. -/
def finish (s : Scan) : List Text := (s.field :: s.done).reverse

end Scan

/-- The fields of a line, in order. Every line has at least one. -/
def fields (line : Text) : List Text := (Scan.start.run line).finish

theorem fields_ne_nil (line : Text) : fields line ≠ [] := by
  simp [fields, Scan.finish]

end ArtifactSearch.Csv
