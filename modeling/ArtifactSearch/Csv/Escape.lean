import ArtifactSearch.Text.Basic

/-!
# ArtifactSearch.Csv.Escape

**Written fields and rows.** A value is put in quotes only if it holds a comma,
a quote or a line feed; quotes in it are then doubled. A carriage return alone
needs no quotes.
-/

namespace ArtifactSearch.Csv

/-- The characters that make quotes necessary. -/
def needsQuotes (c : Char) : Bool := c == ',' || c == '"' || c == '\n'

/-- A character inside quotes: a quote is written twice. -/
def inQuotes (c : Char) : Text := if c = '"' then ['"', '"'] else [c]

/-- The written form of a value. -/
def escape (value : Text) : Text :=
  if value.any needsQuotes then '"' :: (value.flatMap inQuotes ++ ['"']) else value

/-- The written form of a row of values. -/
def row (values : List Text) : Text := Text.join [','] (values.map escape)

end ArtifactSearch.Csv
