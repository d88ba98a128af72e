import ArtifactSearch.CommandLine.Run
import Std.Time.Format

/-!
# ArtifactSearch.Main

The **program**: it looks at the files that a command line names, lets
`CommandLine` say what comes of it, and does that. Two things are not at hand
here, and are told instead: writing workbook files, and serving requests over a
network.
-/

namespace ArtifactSearch.Program

/-- The name that the system knows a location by. -/
def systemName (location : Location) : String :=
  "/" ++ String.ofList (FileTree.relativeText location)

/-- All rights but that to read. -/
def unreadable : Rights := { Rights.all with reads := false }

/-- The tree in which a location may not be looked at, because of the folder it is
in. -/
def bar (tree : FileTree) (location : Location) : FileTree :=
  match tree.entryAt? location.dropLast with
  | some (.folder rights) =>
    (tree.put location.dropLast (.folder { rights with enters := false })).put location (.file [])
  | _ => tree

/-- The tree with what stands at a location, and everything below it if
`isDeep`. Rights show when something is tried; nothing is written to find out. -/
partial def look (isDeep : Bool) (tree : FileTree) (location : Location) : IO FileTree := do
  let place := (← IO.currentDir) / systemName location
  match ← place.metadata.toBaseIO with
  | .error (.permissionDenied ..) => return bar tree location
  | .error _ => return tree
  | .ok data =>
    match data.type with
    | .dir =>
      let names? ← if isDeep then place.readDir.toBaseIO else pure (.ok #[])
      let rights := if names?.isOk then Rights.all else unreadable
      let tree := if location.isEmpty then tree else tree.put location (.folder rights)
      (names?.toOption.getD #[]).foldlM
        (fun tree entry => look true tree (location ++ [entry.fileName.toList])) tree
    | _ =>
      match ← (IO.FS.readBinFile place).toBaseIO with
      | .ok bytes => return tree.put location (.file bytes.toList)
      | .error _ => return tree.put location (.file [] unreadable)

/-- The locations on the way from a location along names. -/
def onTheWay (location : Location) : List Text → List Location
  | [] => [location]
  | name :: rest =>
    location :: onTheWay (if name = ['.', '.'] then location.dropLast else location ++ [name]) rest

/-- The tree with what stands on the way to a path, and below it if `isDeep`. -/
def lookAlong (isDeep : Bool) (tree : FileTree) (path : Path) : IO FileTree := do
  let way := onTheWay (tree.start path) path.names
  let tree ← way.dropLast.foldlM (look false) tree
  look isDeep tree (way.getLastD [])

/-- The paths that an invocation reads. -/
def read : CommandLine.Invocation → List Path
  | .indexes paths | .search paths _ _ | .fields paths _ _ | .save paths _ _ => paths
  | .serve _ => []

/-- The paths that an invocation writes. -/
def written (stamp : Text) : CommandLine.Invocation → List Path
  | .save _ _ output => [CommandLine.savePath stamp output]
  | _ => []

/-- The files that a request is about. -/
def snapshot (stamp : Text) (request : CommandLine.Request) : IO FileTree := do
  let current := (Path.ofText (← IO.currentDir).toString.toList).names
  let tree ← (onTheWay [] current).foldlM (look false) ⟨[], current⟩
  match request with
  | .run invocation =>
    let tree ← (read invocation).foldlM (lookAlong true) tree
    (written stamp invocation).foldlM (lookAlong false) tree
  | _ => return tree

/-- The time of now as part of a file name. -/
def now : IO Text := do
  return ((← Std.Time.PlainDateTime.now).format "uuuuMMdd_HHmmss").toList

/-- Save a document. -/
def save (path : Path) : Document → IO Unit
  | .csv text => do
    IO.FS.createDirAll (String.ofList path.parent.toText)
    IO.FS.writeFile (String.ofList path.toText) (String.ofList text)
  | .workbook _ => throw (IO.userError "writing workbook files is not supported")

/-- Do what a command line asks for; the exit code tells how it went. -/
def run (words : List Text) : IO UInt32 := do
  let stamp ← now
  let request := CommandLine.Request.ofTexts words
  let outcome := request.outcome stamp (← snapshot stamp request)
  try
    if let some (path, document) := outcome.saved then save path document
    IO.print outcome.output
    if outcome.server.isSome then throw (IO.userError "serving requests is not supported")
    match outcome.ending with
    | .success => return 0
    | .misuse report =>
      IO.eprint report
      return CommandLine.misuseCode.toUInt32
    | .failure error =>
      IO.eprintln (String.ofList error.message)
      return 1
    | .noDocument error =>
      IO.eprintln (String.ofList error.message)
      return 1
  catch error =>
    IO.eprintln (toString error)
    return 1

end ArtifactSearch.Program

/-- The entry point. -/
def main (words : List String) : IO UInt32 := ArtifactSearch.Program.run (words.map String.toList)
