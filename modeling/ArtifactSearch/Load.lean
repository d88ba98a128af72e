import ArtifactSearch.Content
import ArtifactSearch.Files.Discover
import ArtifactSearch.Store.Basic
import ArtifactSearch.Text.Count

/-!
# ArtifactSearch.Load

**Loading files** of a tree into a store. A path to a folder stands for the files
discovered below it. A file that cannot be read or is rejected is reported and
skipped; the rest still load. Only failures of another kind stop the loading, and
so does a path that cannot be looked at; they leave the store as it is by then.

What is reported is a list of notices, each worded by `Notice.text`.
-/

namespace ArtifactSearch

/-- A line of the loading report. -/
inductive Notice where
  /-- A file was skipped. -/
  | skipped (name reason : Text)
  /-- The file at a position among `files` went into an index, which then has so
  many rows. -/
  | loaded (position files : Nat) (name key : Text) (rows : Nat)
  /-- What all the loading came to. -/
  | total (loaded files indexes rows : Nat)
  /-- An inbox is about to be loaded. -/
  | inbox (folder : Path)
  /-- The inbox had nothing to load. -/
  | nothing
  deriving Repr, DecidableEq

/-- The wording of a notice. -/
def Notice.text : Notice → String
  | .skipped name reason =>
    s!"  Warning: skipping {String.ofList name}: {String.ofList reason}\n"
  | .loaded position files name key rows =>
    s!"  [{position}/{files}] {String.ofList name} → {String.ofList key} ({Text.grouped rows} rows)\n"
  | .total count files indexes rows =>
    s!"  Total: {count} of {files} files → {indexes} indexes, {Text.grouped rows} rows\n"
  | .inbox folder => s!"Loading artifact exports from {String.ofList folder.toText}...\n"
  | .nothing => "  No readable files found — starting with no indexes\n"

/-- The wording of notices, one after another. -/
def Notice.texts (notices : List Notice) : String := String.join (notices.map Notice.text)

/-- Why a file does not load. -/
inductive LoadError where
  /-- The path cannot be used. -/
  | path (fault : PathFault) (path : Path)
  /-- The file has no text. -/
  | content (error : ContentError)
  deriving Repr, DecidableEq

namespace LoadError

/-- The wording of an error. -/
def message : LoadError → Text
  | .path fault place => fault.message place
  | .content error => error.message

/-- Whether the file is reported and skipped. Otherwise the loading stops. -/
def isSkipped : LoadError → Bool
  | .path .zeroCharacter _ => false
  | .path _ _ => true
  | .content (.rejected _ _) => true
  | .content _ => false

end LoadError

namespace Load

/-- The name and the text of the file at a path. -/
def readText (tree : FileTree) (path : Path) : Except LoadError (Text × Text) :=
  match tree.read path with
  | .error fault => .error (.path fault path)
  | .ok bytes => (Content.decode path.name bytes).mapError .content

/-- The files that one path stands for. A path that cannot be looked at stops the
loading, and so does one below a folder. -/
def expandOne (tree : FileTree) (path : Path) : Except LoadError (List Path) :=
  match tree.obstacle? path with
  | some fault => .error (.path fault path)
  | none =>
    if tree.isFolder path then
      match tree.discover path with
      | .ok found => .ok (found.map path.below)
      | .error (fault, place) => .error (.path fault place)
    else .ok [path]

/-- The files that paths stand for, in order. -/
def expand (tree : FileTree) (paths : List Path) : Except LoadError (List Path) := do
  return (← paths.mapM (expandOne tree)).flatten

/-- How far a loading has come. -/
structure Progress where
  /-- The store by now. -/
  store : Store
  /-- The keys that files went under, in order. -/
  keys : List Text
  /-- The report. -/
  notices : List Notice
  deriving Repr, DecidableEq

/-- The progress after one more file, the one at `position` of `files`. -/
def step (tree : FileTree) (files position : Nat) (progress : Progress) (path : Path) :
    Except LoadError Progress :=
  match readText tree path with
  | .ok (fileName, content) =>
    let store := progress.store.ingest fileName content
    let key := store.keyFor fileName
    let rows := ((store.indexes.get? key).map Index.rowCount).getD 0
    .ok ⟨store, progress.keys ++ [key],
      progress.notices ++ [.loaded position files path.name key rows]⟩
  | .error error =>
    if error.isSkipped then
      .ok { progress with notices := progress.notices ++ [.skipped path.name error.message] }
    else .error error

/-- The progress after files, the first of them at `position` of `files`, and the
error that stopped it, if one did. -/
def run (tree : FileTree) (files : Nat) :
    (position : Nat) → Progress → List Path → Progress × Option LoadError
  | _, progress, [] => (progress, none)
  | position, progress, path :: rest =>
    match step tree files position progress path with
    | .ok progress => run tree files (position + 1) progress rest
    | .error error => (progress, some error)

/-- The progress with the closing line of its report, which is left out if there
were no files at all. -/
def close (files : Nat) (progress : Progress) : Progress :=
  if files = 0 then progress
  else { progress with
    notices := progress.notices ++
      [.total progress.keys.length files progress.store.indexes.length progress.store.rowCount] }

/-- The loading of files and folders, and the error that stopped it, if one
did. -/
def paths (tree : FileTree) (store : Store) (paths : List Path) : Progress × Option LoadError :=
  match expand tree paths with
  | .error error => (⟨store, [], []⟩, some error)
  | .ok files =>
    match run tree files.length 1 ⟨store, [], []⟩ files with
    | (progress, none) => (close files.length progress, none)
    | (progress, some error) => (progress, some error)

/-- The loading of an inbox folder. -/
def inbox (tree : FileTree) (store : Store) (folder : Path) : Progress × Option LoadError :=
  let (progress, error?) := paths tree store [folder]
  let notices := .inbox folder :: progress.notices
  match error? with
  | some error => ({ progress with notices := notices }, some error)
  | none =>
    ({ progress with
      notices := if progress.keys.isEmpty then notices ++ [.nothing] else notices }, none)

end Load

end ArtifactSearch
