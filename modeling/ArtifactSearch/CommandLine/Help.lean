import ArtifactSearch.CommandLine.Grammar
import ArtifactSearch.Text.Count

/-!
# ArtifactSearch.CommandLine.Help

**Help texts**, laid out from a grammar: the usage line, then what every operand
and switch is for. The explanations stand in one column, far enough to the right
for every name but never beyond `farthest`; longer names have a line of their
own.

Every line of the grammars in use fits a terminal, so no line is broken.
-/

namespace ArtifactSearch.CommandLine.Help

/-- What is explained, how far it is indented, and its explanation. -/
structure Row where
  /-- The indentation. -/
  indent : Nat
  /-- What is explained. -/
  name : String
  /-- The explanation. -/
  help : String
  deriving Repr, DecidableEq

/-- The rightmost column of explanations. -/
def farthest : Nat := 24

/-- A name of a switch with what stands for its value. -/
def withPlaceholder (switch : Switch) (name : Text) : String :=
  match switch.takes.placeholder? with
  | some placeholder => s!"{String.ofList name} {placeholder}"
  | none => String.ofList name

/-- A switch in the usage line. -/
def usageOf (switch : Switch) : String :=
  s!"[{withPlaceholder switch (switch.names.headD [])}]"

/-- The names of commands as one word. -/
def choices (entries : List CommandEntry) : String :=
  "\x7b" ++ String.intercalate "," (entries.map (fun entry => String.ofList entry.name)) ++ "\x7d"

/-- The operands in the usage line. -/
def operandUsage : Operands → List String
  | .none => []
  | .many name _ => [s!"[{name} ...]"]
  | .command _ entries => [s!"{choices entries} ..."]

/-- The usage line. -/
def usage (grammar : Grammar) : String :=
  "usage: " ++ String.intercalate " "
    (grammar.program :: grammar.switches.map usageOf ++ operandUsage grammar.operands) ++ "\n"

/-- The row of a switch. -/
def switchRow (switch : Switch) : Row :=
  ⟨2, String.intercalate ", " (switch.names.map (withPlaceholder switch)), switch.help⟩

/-- The rows of operands. -/
def operandRows : Operands → List Row
  | .none => []
  | .many name help => [⟨2, name, help⟩]
  | .command help entries =>
    ⟨2, choices entries, help⟩ ::
      entries.map (fun entry => ⟨4, String.ofList entry.name, entry.help⟩)

/-- The column of the explanations of rows. -/
def column (rows : List Row) : Nat :=
  min ((rows.map (fun row => row.name.length + 4)).foldl max 0) farthest

/-- A row with its explanation in a column. -/
def Row.text (column : Nat) (row : Row) : String :=
  let name := Text.padRight row.indent "" ++ row.name
  if name.length + 2 ≤ column then Text.padRight column name ++ row.help ++ "\n"
  else name ++ "\n" ++ Text.padRight column "" ++ row.help ++ "\n"

/-- Rows under a heading. -/
def section? (column : Nat) (heading : String) (rows : List Row) : String :=
  if rows.isEmpty then "" else s!"\n{heading}:\n" ++ String.join (rows.map (Row.text column))

/-- The help text. -/
def text (grammar : Grammar) : String :=
  let operands := operandRows grammar.operands
  let switches := grammar.switches.map switchRow
  let column := column (operands ++ switches)
  usage grammar ++ (grammar.description.map (fun text => s!"\n{text}\n")).getD ""
    ++ section? column "positional arguments" operands
    ++ section? column "options" switches

end ArtifactSearch.CommandLine.Help
