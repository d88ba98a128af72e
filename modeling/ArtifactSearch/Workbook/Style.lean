/-!
# ArtifactSearch.Workbook.Style

The **look of cells**: fonts, fills, borders, alignments and number formats, and
the few of each that the workbooks use.
-/

namespace ArtifactSearch

/-- A colour: six hexadecimal digits for red, green and blue. -/
abbrev Colour := String

/-- A font. Without a colour, the theme decides. -/
structure Font where
  /-- The name of the typeface. -/
  name : String
  /-- The size in points. -/
  size : Nat
  /-- Whether it is bold. -/
  bold : Bool
  /-- Whether it is italic. -/
  italic : Bool
  /-- The colour. -/
  colour : Option Colour
  deriving Repr, DecidableEq

/-- The weight of a border line. -/
inductive LineWeight where
  /-- A thin line. -/
  | thin
  /-- A medium line. -/
  | medium
  deriving Repr, DecidableEq

/-- The line at one side of a cell. -/
structure Line where
  /-- The weight. -/
  weight : LineWeight
  /-- The colour. -/
  colour : Colour
  deriving Repr, DecidableEq

/-- The lines around a cell. -/
structure Border where
  /-- The line at the left. -/
  left : Option Line
  /-- The line at the right. -/
  right : Option Line
  /-- The line at the top. -/
  top : Option Line
  /-- The line at the bottom. -/
  bottom : Option Line
  deriving Repr, DecidableEq

/-- Where text stands between the left and the right side of a cell. Whatever
has such an alignment is also centred between top and bottom. -/
inductive Alignment where
  /-- At the left. -/
  | left
  /-- In the middle. -/
  | centre
  /-- At the right. -/
  | right
  deriving Repr, DecidableEq

/-- How numbers are shown. -/
inductive NumberFormat where
  /-- As they are. -/
  | general
  /-- Without decimals, in groups of three digits. -/
  | grouped
  deriving Repr, DecidableEq

/-- The look of a cell. -/
structure Style where
  /-- The font. -/
  font : Font
  /-- The colour of a solid fill. -/
  fill : Option Colour
  /-- The lines around it. -/
  border : Border
  /-- The alignment. -/
  alignment : Option Alignment
  /-- The number format. -/
  format : NumberFormat
  deriving Repr, DecidableEq

namespace Colour

/-- Dark blue. -/
def navy : Colour := "1F2A44"

/-- Dark blue grey. -/
def slate : Colour := "37474F"

/-- Light blue grey. -/
def lightSlate : Colour := "ECEFF1"

/-- The grey behind every second row. -/
def alternate : Colour := "F5F5F5"

/-- White. -/
def white : Colour := "FFFFFF"

/-- Black. -/
def black : Colour := "000000"

/-- The grey of subtitles. -/
def grey : Colour := "666666"

/-- The grey of the grid. -/
def grid : Colour := "CCCCCC"

end Colour

namespace Font

/-- The font of a cell that was given none. -/
def plain : Font := ⟨"Calibri", 11, false, false, none⟩

/-- The font of titles. -/
def title : Font := ⟨"Calibri", 18, true, false, some Colour.navy⟩

/-- The font of subtitles. -/
def subtitle : Font := ⟨"Calibri", 11, false, true, some Colour.grey⟩

/-- The font of table headers. -/
def header : Font := ⟨"Calibri", 11, true, false, some Colour.white⟩

/-- The font of data. -/
def data : Font := ⟨"Consolas", 10, false, false, some Colour.black⟩

/-- The font of index names. -/
def index : Font := ⟨"Calibri", 10, true, false, some Colour.slate⟩

end Font

namespace Border

/-- No line at any side. -/
def none : Border := ⟨.none, .none, .none, .none⟩

/-- The border of data. -/
def data : Border :=
  let line : Line := ⟨.thin, Colour.grid⟩
  ⟨some line, some line, some line, some line⟩

/-- The border of table headers. -/
def header : Border :=
  let line : Line := ⟨.thin, Colour.navy⟩
  ⟨some line, some line, some line, some ⟨.medium, Colour.navy⟩⟩

/-- The lines of a border, and those of another one where it has none. -/
def orElse (border other : Border) : Border :=
  ⟨border.left <|> other.left, border.right <|> other.right, border.top <|> other.top,
    border.bottom <|> other.bottom⟩

end Border

namespace Style

/-- The look of a cell that was given none. -/
def plain : Style := ⟨.plain, none, .none, none, .general⟩

/-- The look of table headers, over what a cell looked like before. -/
def header (style : Style) : Style :=
  { style with
    font := .header
    fill := some Colour.navy
    alignment := some .centre
    border := .header }

end Style

end ArtifactSearch
