import ArtifactSearch.Csv.Fields
import ArtifactSearch.Csv.Lines
import ArtifactSearch.Entries

/-!
# ArtifactSearch.Table

**Tables read from delimited text.** The first line that holds something is the
header; every later one is a record. A record matches the fields of its line
with the header by position: missing values are empty, surplus ones are
dropped, and a name that stands twice in the header keeps its last value.
-/

namespace ArtifactSearch

/-- A record: the value under each column, in column order. -/
abbrev Record := Entries Text

namespace Record

/-- Header names paired with the values at their positions; a missing value is
empty. -/
def pair : List Text → List Text → List (Text × Text)
  | [], _ => []
  | name :: header, [] => (name, []) :: pair header []
  | name :: header, value :: values => (name, value) :: pair header values

/-- The record of one line under a header. -/
def ofFields (header values : List Text) : Record := Entries.ofList (pair header values)

end Record

/-- Distinct columns and the records below them. -/
structure Table where
  /-- The distinct column names, in order of first occurrence. -/
  columns : List Text
  /-- One record per line below the header. -/
  records : List Record
  deriving Repr, DecidableEq

namespace Table

/-- The table without columns or records. -/
def empty : Table := ⟨[], []⟩

/-- The table of the lines that hold something. -/
def ofLines : List Text → Table
  | [] => empty
  | first :: rest =>
    let header := Csv.fields first
    ⟨header.eraseDups, rest.map (fun line => Record.ofFields header (Csv.fields line))⟩

/-- The table of a delimited text. -/
def parse (content : Text) : Table := ofLines (Csv.lines content)

end Table

end ArtifactSearch
