import ArtifactSearch.CommandLine.Grammar
import ArtifactSearch.Text.Quote

/-!
# ArtifactSearch.CommandLine.Misuse

**What can be wrong with a command line**, and the wording of each fault.
-/

namespace ArtifactSearch.CommandLine

/-- A fault of a command line. -/
inductive Misuse where
  /-- An abbreviation stands for several names. -/
  | ambiguous (written : Text) (names : List Text)
  /-- A switch that takes nothing has a value. -/
  | needlessValue (switch : Switch) (value : Text)
  /-- A switch has no value. -/
  | missingValue (switch : Switch)
  /-- The value of a switch is no integer. -/
  | notAnInteger (switch : Switch) (value : Text)
  /-- There is no command of this name. -/
  | unknownCommand (written : Text) (known : List Text)
  /-- There are words too many. -/
  | unrecognized (words : List Text)
  deriving Repr, DecidableEq

namespace Misuse

/-- The wording of a fault of what is called `name`. -/
def ofArgument (name wording : Text) : Text :=
  "argument ".toList ++ name ++ ": ".toList ++ wording

/-- The wording of a fault. -/
def message : Misuse → Text
  | .ambiguous written names =>
    "ambiguous option: ".toList ++ written ++ " could match ".toList
      ++ Text.join ", ".toList names
  | .needlessValue switch value =>
    ofArgument switch.shownName ("ignored explicit argument ".toList ++ Text.quote value)
  | .missingValue switch => ofArgument switch.shownName "expected one argument".toList
  | .notAnInteger switch value =>
    ofArgument switch.shownName ("invalid int value: ".toList ++ Text.quote value)
  | .unknownCommand written known =>
    ofArgument "command".toList
      ("invalid choice: ".toList ++ Text.quote written ++ " (choose from ".toList
        ++ Text.join ", ".toList (known.map Text.quote) ++ [')'])
  | .unrecognized words => "unrecognized arguments: ".toList ++ Text.join [' '] words

end Misuse

end ArtifactSearch.CommandLine
