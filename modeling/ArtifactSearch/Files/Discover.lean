import ArtifactSearch.Files.Tree

/-!
# ArtifactSearch.Files.Discover

**Discovery**: the files below a folder, at any depth, without hidden ones, in
the order of their relative paths as whole texts. A name that starts with a dot
hides the file, or everything below the folder, of that name; the folder's own
path hides nothing.

A folder that may not be listed has nothing in it for discovery. Whatever is
listed is looked at, hidden or not, and the first thing that cannot be looked at
is what discovery fails with.
-/

namespace ArtifactSearch.FileTree

/-- The text of a relative path. -/
def relativeText (names : List Text) : Text := Text.join ['/'] names

/-- Whether some name on the way hides the file. -/
def isHidden (names : List Text) : Bool := names.any (fun name => name.head? = some '.')

/-- The names in a folder, as the system lists them. -/
def namesIn (tree : FileTree) (location : Location) : List Text :=
  tree.entries.filterMap (fun e => if e.1.dropLast = location then e.1.getLast? else none)

/-- What is listed below a location, at most `depth` names away: what is in the
folder itself comes before what is in the folders in it. -/
def listedBelow (tree : FileTree) : (depth : Nat) → Location → List (List Text)
  | 0, _ => []
  | depth + 1, location =>
    match tree.entryAt? location with
    | some (.folder rights) =>
      if rights.reads then
        let names := tree.namesIn location
        names.map (fun name => [name]) ++ names.flatMap (fun name =>
          (listedBelow tree depth (location ++ [name])).map (fun rest => name :: rest))
      else []
    | _ => []

/-- The number of names that lead to the deepest entry. -/
def depth (tree : FileTree) : Nat := tree.entries.foldl (fun n e => max n e.1.length) 0

/-- What is listed below the folder that a path leads to. -/
def listing (tree : FileTree) (folder : Path) : List (List Text) :=
  match tree.locate folder with
  | .ok location => tree.listedBelow tree.depth location
  | .error _ => []

/-- The first of some paths that cannot be looked at, and why. -/
def firstObstacle? (tree : FileTree) (paths : List Path) : Option (PathFault × Path) :=
  paths.findSome? (fun path => (tree.obstacle? path).map (fun fault => (fault, path)))

/-- The relative paths of the files below a folder that are not hidden. Where no
folder is, there are none; what cannot be looked at is a fault. -/
def discover (tree : FileTree) (folder : Path) : Except (PathFault × Path) (List (List Text)) :=
  let listing := tree.listing folder
  match tree.firstObstacle? (folder :: listing.map folder.below) with
  | some obstacle => .error obstacle
  | none =>
    .ok ((listing.filter (fun names =>
        tree.isFile (folder.below names) && !isHidden names)).mergeSort
      (fun a b => Text.precedes (relativeText a) (relativeText b)))

end ArtifactSearch.FileTree
