import ArtifactSearch.CommandLine.Help
import ArtifactSearch.CommandLine.Invocation
import ArtifactSearch.CommandLine.Listing
import ArtifactSearch.Load

/-!
# ArtifactSearch.CommandLine.Run

**Running a command line** on a file tree. All that comes of it is a value: what
is printed, how it ends, what is saved, and the server that is to be started.
-/

namespace ArtifactSearch.CommandLine

/-- How a command line ends. -/
inductive Ending where
  /-- Well. -/
  | success
  /-- With a report of how it was misused. -/
  | misuse (report : String)
  /-- With a failure to load or to save. -/
  | failure (error : LoadError)
  /-- With a failure to make a document. -/
  | noDocument (error : Workbook.StepError)
  deriving Repr, DecidableEq

/-- What comes of a command line. -/
structure Outcome where
  /-- What is printed. -/
  output : String
  /-- How it ends. -/
  ending : Ending
  /-- The document that is saved, and where. -/
  saved : Option (Path × Document)
  /-- The files after it. -/
  tree : FileTree
  /-- The server to start. -/
  server : Option Server
  deriving Repr, DecidableEq

namespace Outcome

/-- The outcome of a command that only prints. -/
def printed (tree : FileTree) (output : String) : Outcome := ⟨output, .success, none, tree, none⟩

end Outcome

/-- The exit code of a fault. -/
def misuseCode : Nat := 2

/-- The report of a fault under a grammar. -/
def misuseReport (grammar : Grammar) (cause : Misuse) : String :=
  s!"{Help.usage grammar}{grammar.program}: error: {String.ofList cause.message}\n"

/-- The loading of paths for a query, with what it prints. -/
def load (tree : FileTree) (paths : List Path) (query : Text) :
    String × Except LoadError Store :=
  let (progress, error?) := Load.paths tree Store.initial paths
  let names := String.ofList (Text.join ", ".toList (paths.map Path.toText))
  let output := s!"Loading {names}...\n" ++ Notice.texts progress.notices
  match error? with
  | some error => (output, .error error)
  | none =>
    (output, .ok (if query.isEmpty then progress.store else progress.store.setQuery query))

/-- The outcome of a command on a store, printed behind the report of its
loading. -/
def onStore (tree : FileTree) (paths : List Path) (query : Text) (command : Store → Outcome) :
    Outcome :=
  match load tree paths query with
  | (output, .error error) => { Outcome.printed tree output with ending := .failure error }
  | (output, .ok store) =>
    let outcome := command store
    { outcome with output := output ++ outcome.output }

/-- The saving of the results of a store at a path. -/
def saveResults (tree : FileTree) (store : Store) (path : Path) : Outcome :=
  let hits := store.results
  match Document.ofResults store hits path with
  | .error error => { Outcome.printed tree "" with ending := .noDocument error }
  | .ok document =>
    match tree.save path document.bytes with
    | (tree, none) =>
      let output :=
        s!"\n  Exported {Text.grouped hits.length} results to: {String.ofList path.toText}\n\n"
      { Outcome.printed tree output with saved := some (path, document) }
    | (tree, some (fault, path)) =>
      { Outcome.printed tree "" with ending := .failure (.path fault path) }

/-- The path to save at: the one asked for, or else one named for the time. -/
def savePath (stamp output : Text) : Path :=
  if output.isEmpty then Folders.exports.below [Document.fileName stamp ".csv".toList]
  else .ofText output

/-- The outcome of an invocation at the time of `stamp`. -/
def Invocation.outcome (stamp : Text) (tree : FileTree) : Invocation → Outcome
  | .indexes paths =>
    onStore tree paths [] (fun store => .printed tree (Listing.indexes store))
  | .search paths query page =>
    onStore tree paths query (fun store =>
      .printed tree (Listing.results (match page with
        | some page => store.setPage page
        | none => store)))
  | .fields paths index top =>
    onStore tree paths [] (fun store => .printed tree (Listing.profiles store index top))
  | .save paths query output =>
    onStore tree paths query (fun store => saveResults tree store (savePath stamp output))
  | .serve server =>
    { Outcome.printed tree s!"\nStarting Forensic Reader API on port {server.port}...\n" with
      server := some server }

/-- The outcome of a request. -/
def Request.outcome (stamp : Text) (tree : FileTree) : Request → Outcome
  | .run invocation => invocation.outcome stamp tree
  | .help grammar => .printed tree (Help.text grammar)
  | .misuse grammar cause =>
    { Outcome.printed tree "" with ending := .misuse (misuseReport grammar cause) }

/-- The outcome of a command line. -/
def run (stamp : Text) (tree : FileTree) (words : List Text) : Outcome :=
  (Request.ofTexts words).outcome stamp tree

end ArtifactSearch.CommandLine
