import ArtifactSearch.CommandLine.Misuse
import ArtifactSearch.Text.Integer

/-!
# ArtifactSearch.CommandLine.Word

The **words of a command line**: what each of them is, seen by itself.

* A word without a dash in front is an operand, and so are a single dash, a
  negative number and, unless some switch fits, a word with a space in it.
* Two dashes alone divide the line: whatever follows is an operand.
* A switch may be written by the start of a long name that fits no other one,
  with its value behind an equals sign. Behind a one-letter name the value may
  follow at once, and so may other letters if the name takes no value.
-/

namespace ArtifactSearch.CommandLine

/-- What a word gives a switch. -/
inductive Attached where
  /-- Nothing. -/
  | nothing
  /-- What stands behind an equals sign. -/
  | value (value : Text)
  /-- What stands behind the letter of its name: a value or more letters. -/
  | letters (rest : Text)
  deriving Repr, DecidableEq

/-- What a word is. -/
inductive Word where
  /-- An operand, or the value of the switch before it. -/
  | operand
  /-- The divider. -/
  | divider
  /-- A switch. -/
  | switch (switch : Switch) (attached : Attached)
  /-- A switch that the grammar does not know. -/
  | unknown
  deriving Repr, DecidableEq

namespace Word

/-- Digits only, and at least one. -/
def areDigits (s : Text) : Bool := !s.isEmpty && s.all (fun c => (Text.digitValue? c).isSome)

/-- Whether a word reads as a negative number: digits behind a dash, perhaps
with a point before the last of them, and perhaps a line end. -/
def isNegativeNumber : Text → Bool
  | '-' :: s =>
    let s := if s.getLast? = some '\n' then s.dropLast else s
    let fraction := (s.dropWhile (· ≠ '.')).drop 1
    areDigits s || (areDigits fraction
      && (s.takeWhile (· ≠ '.')).all (fun c => (Text.digitValue? c).isSome))
  | _ => false

/-- Whether a name starts with two dashes. -/
def isLong (name : Text) : Bool := ['-', '-'].isPrefixOf name

/-- What stands behind the first equals sign. Unless it is nothing, a one-letter
name takes it as if the sign were not there. -/
def afterEquals (s : Text) : Attached :=
  match s.dropWhile (· ≠ '=') with
  | [] => .nothing
  | _ :: value => if isLong s || value.isEmpty then .value value else .letters value

/-- The names that a word may stand for, if it is no name itself. -/
def candidates (grammar : Grammar) (s : Text) : List (Text × Word) :=
  if isLong s then
    (grammar.names.filter (fun entry => (s.takeWhile (· ≠ '=')).isPrefixOf entry.1)).map
      (fun entry => (entry.1, .switch entry.2 (afterEquals s)))
  else
    (grammar.names.filter (fun entry => entry.1 = s.take 2)).map
      (fun entry => (entry.1, .switch entry.2 (.letters (s.drop 2))))

/-- What a word is that starts with a dash and has more to it. -/
def ofDashed (grammar : Grammar) (s : Text) : Except Misuse Word :=
  match grammar.named? s, grammar.named? (s.takeWhile (· ≠ '=')) with
  | some found, _ => .ok (.switch found .nothing)
  | none, some found => .ok (.switch found (afterEquals s))
  | none, none =>
    match candidates grammar s with
    | [] => .ok (if isNegativeNumber s || s.contains ' ' then .operand else .unknown)
    | [(_, word)] => .ok word
    | many => .error (.ambiguous s (many.map Prod.fst))

/-- What a word before the divider is. -/
def ofText (grammar : Grammar) : Text → Except Misuse Word
  | '-' :: c :: s => ofDashed grammar ('-' :: c :: s)
  | _ => .ok .operand

/-- What the words of a line are. -/
def ofTexts (grammar : Grammar) : List Text → Except Misuse (List (Text × Word))
  | [] => .ok []
  | s :: rest =>
    if s = "--".toList then .ok ((s, .divider) :: rest.map (fun s => (s, .operand)))
    else do return (s, ← ofText grammar s) :: (← ofTexts grammar rest)

end Word

end ArtifactSearch.CommandLine
