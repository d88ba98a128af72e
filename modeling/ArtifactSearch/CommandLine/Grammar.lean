import ArtifactSearch.Text.Basic

/-!
# ArtifactSearch.CommandLine.Grammar

The **grammar of a command line**: the switches that a program or one of its
commands knows, and what else may stand on its line.

The name of a switch is a dash and a character, or two dashes and a word. A
switch takes one value or none. Every grammar knows the switch that asks for
help.
-/

namespace ArtifactSearch.CommandLine

/-- What a switch takes. -/
inductive Takes where
  /-- Nothing. -/
  | nothing
  /-- A text, for which `placeholder` stands in help texts. -/
  | text (placeholder : String)
  /-- An integer, for which `placeholder` stands in help texts. -/
  | integer (placeholder : String)
  deriving Repr, DecidableEq

/-- What stands in help texts for what a switch takes. -/
def Takes.placeholder? : Takes → Option String
  | .nothing => none
  | .text placeholder | .integer placeholder => some placeholder

/-- A switch. -/
structure Switch where
  /-- Its names, with their dashes. -/
  names : List Text
  /-- What it takes. -/
  takes : Takes
  /-- What it is for. -/
  help : String
  deriving Repr, DecidableEq

namespace Switch

/-- The switch that asks for help. -/
def askHelp : Switch :=
  ⟨["-h".toList, "--help".toList], .nothing, "show this help message and exit"⟩

/-- The switch as messages call it. -/
def shownName (switch : Switch) : Text := Text.join ['/'] switch.names

end Switch

/-- A command as the grammar above it knows it. -/
structure CommandEntry where
  /-- Its name. -/
  name : Text
  /-- What it is for. -/
  help : String
  deriving Repr, DecidableEq

/-- What may stand on a line beside the switches. -/
inductive Operands where
  /-- Nothing. -/
  | none
  /-- Any number of texts, all in one place. -/
  | many (name help : String)
  /-- The name of a command and all that belongs to it. -/
  | command (help : String) (entries : List CommandEntry)
  deriving Repr, DecidableEq

/-- The grammar of a program or a command. -/
structure Grammar where
  /-- What is typed to get there. -/
  program : String
  /-- What it is, if that is told. -/
  description : Option String
  /-- The switches beside the one that asks for help. -/
  ownSwitches : List Switch
  /-- What else may stand on its line. -/
  operands : Operands
  deriving Repr, DecidableEq

namespace Grammar

/-- All switches. -/
def switches (grammar : Grammar) : List Switch := .askHelp :: grammar.ownSwitches

/-- All names, each with its switch. -/
def names (grammar : Grammar) : List (Text × Switch) :=
  grammar.switches.flatMap (fun switch => switch.names.map (fun name => (name, switch)))

/-- The switch of a name. -/
def named? (grammar : Grammar) (name : Text) : Option Switch := grammar.names.lookup name

end Grammar

end ArtifactSearch.CommandLine
