import ArtifactSearch.Text.Blank

/-!
# ArtifactSearch.Csv.Lines

**Lines** of delimited text. A line ends at a line feed; one carriage return
right before that line feed belongs to the line end. A carriage return
anywhere else is data. Lines with nothing but edge blanks are dropped, inside
quotes too, so no value ever spans lines.
-/

namespace ArtifactSearch.Csv

/-- The line without one trailing carriage return. -/
def chopReturn (line : Text) : Text :=
  if line.getLast? = some '\r' then line.dropLast else line

/-- The pieces between line ends. The last piece has no line end, so a
carriage return at its end stays. -/
def pieces (content : Text) : List Text :=
  let parts := Text.split '\n' content
  parts.dropLast.map chopReturn ++ parts.getLast?.toList

/-- Whether a line holds nothing but edge blanks. -/
def isBlankLine (line : Text) : Bool := line.all Blank.isEdge

/-- The lines that hold something, untrimmed. -/
def lines (content : Text) : List Text := (pieces content).filter (fun line => !isBlankLine line)

end ArtifactSearch.Csv
