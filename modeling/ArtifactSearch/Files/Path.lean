import ArtifactSearch.Text.Quote

/-!
# ArtifactSearch.Files.Path

**Paths** as they are written and shown: names divided by slashes. Empty names
and single dots drop out when a path is read; a double dot is kept, because what
it stands for depends on the file tree.
-/

namespace ArtifactSearch

/-- A path: the slashes it starts with and the names behind them. -/
structure Path where
  /-- Empty for a relative path, else one slash or two. -/
  root : Text
  /-- The names, none of them empty or a single dot. -/
  names : List Text
  deriving Repr, DecidableEq

namespace Path

/-- The slashes at the start of a text, as far as they count: three or more are
as good as one. -/
def rootOf : Text → Text
  | '/' :: '/' :: '/' :: _ => ['/']
  | '/' :: '/' :: _ => ['/', '/']
  | '/' :: _ => ['/']
  | _ => []

/-- The path that a text writes. -/
def ofText (s : Text) : Path :=
  ⟨rootOf s, (Text.split '/' s).filter (fun name => !name.isEmpty && name ≠ ['.'])⟩

/-- The relative path of the given names. -/
def relative (names : List Text) : Path := ⟨[], names⟩

/-- The text of a path; the path without names is a single dot. -/
def toText (p : Path) : Text :=
  if p.root.isEmpty && p.names.isEmpty then ['.'] else p.root ++ Text.join ['/'] p.names

/-- The names that are followed one after another: a path without any is written as a
single dot. -/
def steps (p : Path) : List Text :=
  if p.root.isEmpty && p.names.isEmpty then [['.']] else p.names

/-- The last name, empty if there is none. -/
def name (p : Path) : Text := p.names.getLastD []

/-- The path without its last name. -/
def parent (p : Path) : Path := ⟨p.root, p.names.dropLast⟩

/-- The path with further names below. -/
def below (p : Path) (names : List Text) : Path := ⟨p.root, p.names ++ names⟩

/-- The extension of the last name with its dot: what starts at the last dot,
unless the name starts or ends there. -/
def suffix (p : Path) : Text :=
  let reversed := p.name.reverse
  let extension := reversed.takeWhile (· ≠ '.')
  if extension.isEmpty || reversed.length ≤ extension.length + 1 then []
  else '.' :: extension.reverse

example : (ofText "./a//b/".toList).toText = "a/b".toList ∧ (ofText []).toText = ['.'] := by decide

example : (ofText "d/.xlsx".toList).suffix = [] ∧ (ofText "x.tar.gz".toList).suffix = ".gz".toList := by
  decide

end Path

end ArtifactSearch
