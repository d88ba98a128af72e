import ArtifactSearch.Bytes.BitStream
import ArtifactSearch.Files.Path

/-!
# ArtifactSearch.Files.Tree

**File trees**: what stands at each location, and the folder that relative paths
start from. The order of the entries is the order in which the system happens
to list them; nothing may depend on it.

Files and folders come with the `Rights` that this program has there. Paths are
followed name by name: every name but the last must lead to a folder that may be
entered, and a double dot leads back to the folder above. `PathFault` says what
can go wrong; of two faults, the one met first is reported.
-/

namespace ArtifactSearch

/-- What may be done with a file or a folder. -/
structure Rights where
  /-- A file may be read, the names in a folder listed. -/
  reads : Bool
  /-- A file may be overwritten, something new put into a folder. -/
  writes : Bool
  /-- What is in a folder may be looked at. -/
  enters : Bool
  deriving Repr, DecidableEq

/-- No restrictions. -/
def Rights.all : Rights := ⟨true, true, true⟩

/-- What stands at a location. -/
inductive Entry where
  /-- A file with its bytes. -/
  | file (bytes : Bytes) (rights : Rights := .all)
  /-- A folder. -/
  | folder (rights : Rights := .all)
  deriving Repr, DecidableEq

/-- The names that lead from the top of the tree to an entry. -/
abbrev Location := List Text

/-- Files and folders, and the folder that relative paths start from. -/
structure FileTree where
  /-- The entries below the top folder. -/
  entries : List (Location × Entry)
  /-- The folder that relative paths start from. -/
  current : Location
  deriving Repr, DecidableEq

/-- Why a path cannot be used. -/
inductive PathFault where
  /-- Nothing stands there. -/
  | missing
  /-- Something stands there already. -/
  | exists
  /-- A name before the last one does not lead to a folder. -/
  | notAFolder
  /-- There is a folder, where a file is asked for. -/
  | isAFolder
  /-- Something on the way, or there, is not allowed. -/
  | forbidden
  /-- A name or the whole path is too long. -/
  | tooLong
  /-- There is a zero character in it. -/
  | zeroCharacter
  deriving Repr, DecidableEq

namespace PathFault

/-- The number and the wording the system gives a fault; it has neither for a
zero character. -/
def systemText? : PathFault → Option (Nat × String)
  | .missing => some (2, "No such file or directory")
  | .forbidden => some (13, "Permission denied")
  | .exists => some (17, "File exists")
  | .notAFolder => some (20, "Not a directory")
  | .isAFolder => some (21, "Is a directory")
  | .tooLong => some (36, "File name too long")
  | .zeroCharacter => none

/-- The wording of a fault of a path. -/
def message (fault : PathFault) (path : Path) : Text :=
  match fault.systemText? with
  | some (number, wording) =>
    s!"[Errno {number}] {wording}: ".toList ++ Text.quote path.toText
  | none => "embedded null byte".toList

end PathFault

namespace FileTree

/-- The tree with a single folder called `work`, the one relative paths start
from. -/
def empty : FileTree := ⟨[(["work".toList], .folder)], ["work".toList]⟩

/-- What stands at a location. The top is a folder without restrictions. -/
def entryAt? (tree : FileTree) (location : Location) : Option Entry :=
  if location.isEmpty then some .folder else tree.entries.lookup location

/-- The tree with `entry` at a location. -/
def put (tree : FileTree) (location : Location) (entry : Entry) : FileTree :=
  { tree with
    entries :=
      if (tree.entries.lookup location).isSome then
        tree.entries.map (fun e => if e.1 = location then (location, entry) else e)
      else tree.entries ++ [(location, entry)] }

/-- The length of a text in bytes. -/
def byteLength (s : Text) : Nat := (String.ofList s).utf8ByteSize

/-- The fault of a path that the tree is not even asked about. -/
def fault? (path : Path) : Option PathFault :=
  if path.toText.contains '\x00' then some .zeroCharacter
  else if 4096 ≤ byteLength path.toText then some .tooLong
  else none

/-- The location that `names` lead to from a location with something at it. -/
def follow (tree : FileTree) (location : Location) : List Text → Except PathFault Location
  | [] => .ok location
  | name :: rest =>
    match tree.entryAt? location with
    | none => .error .missing
    | some (.file _ _) => .error .notAFolder
    | some (.folder rights) =>
      if !rights.enters then .error .forbidden
      else if name = ['.'] then follow tree location rest
      else if name = ['.', '.'] then follow tree location.dropLast rest
      else if 255 < byteLength name then .error .tooLong
      else if (tree.entryAt? (location ++ [name])).isNone then .error .missing
      else follow tree (location ++ [name]) rest

/-- The location that a path starts from. -/
def start (tree : FileTree) (path : Path) : Location :=
  if path.root.isEmpty then tree.current else []

/-- The location of the entry that a path leads to. -/
def locate (tree : FileTree) (path : Path) : Except PathFault Location :=
  match fault? path with
  | some fault => .error fault
  | none => follow tree (tree.start path) path.steps

/-- What stands where a path leads. -/
def find (tree : FileTree) (path : Path) : Except PathFault Entry := do
  match tree.entryAt? (← tree.locate path) with
  | some entry => return entry
  | none => throw .missing

/-- Whether a path leads to a folder. -/
def isFolder (tree : FileTree) (path : Path) : Bool :=
  match tree.find path with
  | .ok (.folder _) => true
  | _ => false

/-- Whether a path leads to a file. -/
def isFile (tree : FileTree) (path : Path) : Bool :=
  match tree.find path with
  | .ok (.file _ _) => true
  | _ => false

/-- Why a path cannot be looked at. That nothing is there is no reason. -/
def obstacle? (tree : FileTree) (path : Path) : Option PathFault :=
  match tree.find path with
  | .error .forbidden => some .forbidden
  | .error .tooLong => some .tooLong
  | _ => none

/-- The bytes of the file that a path leads to. -/
def read (tree : FileTree) (path : Path) : Except PathFault Bytes := do
  match ← tree.find path with
  | .file bytes rights => if rights.reads then return bytes else throw .forbidden
  | .folder rights => throw (if rights.reads then .isAFolder else .forbidden)

/-- The location where the last name of a path would go: in the folder that the
names before it lead to. A path that ends in dots, or has no name, leads to a
folder in any case. -/
def locateNew (tree : FileTree) (path : Path) : Except PathFault Location :=
  match fault? path with
  | some fault => .error fault
  | none =>
    match path.steps.getLast? with
    | none => .ok (tree.start path)
    | some name => do
      let folder ← follow tree (tree.start path) path.steps.dropLast
      match tree.entryAt? folder with
      | some (.folder rights) =>
        if !rights.enters then throw .forbidden
        else if name = ['.'] then return folder
        else if name = ['.', '.'] then return folder.dropLast
        else if 255 < byteLength name then throw .tooLong
        else return folder ++ [name]
      | some (.file _ _) => throw .notAFolder
      | none => throw .missing

/-- Whether something new may be put at a location. -/
def admits (tree : FileTree) (location : Location) : Bool :=
  match tree.entryAt? location.dropLast with
  | some (.folder rights) => rights.writes
  | _ => false

/-- The tree with a new folder. -/
def makeFolder (tree : FileTree) (path : Path) : Except PathFault FileTree := do
  let location ← tree.locateNew path
  if (tree.entryAt? location).isSome then throw .exists
  if !tree.admits location then throw .forbidden
  return tree.put location .folder

/-- The tree with a folder that may be there already. -/
def ensureFolder (tree : FileTree) (path : Path) : Except PathFault FileTree :=
  match tree.makeFolder path with
  | .ok made => .ok made
  | .error .missing => .error .missing
  | .error fault => if tree.isFolder path then .ok tree else .error fault

/-- The tree with a folder and all folders above it, as far as they are missing,
and the fault that ended it with the path it is the fault of, if there was one;
the folders made by then stay. There are at most as many folders to make as the
path has names. -/
def ensureFolders (tree : FileTree) (path : Path) :
    (fuel : Nat) → FileTree × Option (PathFault × Path)
  | 0 => (tree, some (.missing, path))
  | fuel + 1 =>
    match tree.ensureFolder path with
    | .ok made => (made, none)
    | .error .missing =>
      if path.names.isEmpty then (tree, some (.missing, path))
      else match ensureFolders tree path.parent fuel with
        | (tree, some fault) => (tree, some fault)
        | (tree, none) =>
          match tree.ensureFolder path with
          | .ok made => (made, none)
          | .error fault => (tree, some (fault, path))
    | .error fault => (tree, some (fault, path))

/-- The tree with a file of the given bytes, new or overwritten. The folder must
be there. -/
def write (tree : FileTree) (path : Path) (bytes : Bytes) : Except PathFault FileTree := do
  let location ← tree.locateNew path
  match tree.entryAt? location with
  | some (.folder _) => throw .isAFolder
  | some (.file _ rights) =>
    if rights.writes then return tree.put location (.file bytes rights) else throw .forbidden
  | none =>
    if tree.admits location then return tree.put location (.file bytes) else throw .forbidden

/-- The tree with a file of the given bytes and all folders above it, and the fault
that ended it, if there was one; the folders stay even without the file. -/
def save (tree : FileTree) (path : Path) (bytes : Bytes) :
    FileTree × Option (PathFault × Path) :=
  match tree.ensureFolders path.parent (path.parent.names.length + 1) with
  | (tree, some fault) => (tree, some fault)
  | (tree, none) =>
    match tree.write path bytes with
    | .ok written => (written, none)
    | .error fault => (tree, some (fault, path))

end FileTree

end ArtifactSearch
