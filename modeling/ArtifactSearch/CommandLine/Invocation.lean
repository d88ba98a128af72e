import ArtifactSearch.CommandLine.Reading
import ArtifactSearch.Document

/-!
# ArtifactSearch.CommandLine.Invocation

The **commands of the program** and what a command line asks of them.

`Request.ofTexts` is the meaning of a command line: an invocation, a help text,
or a fault. Words that nothing has a use for are a fault only if the command
itself could be read.
-/

namespace ArtifactSearch.CommandLine

/-- What the program can do. -/
inductive Command where
  /-- List the indexes. -/
  | indexes
  /-- Show a page of results. -/
  | search
  /-- Show field profiles. -/
  | fields
  /-- Save results. -/
  | save
  /-- Serve requests. -/
  | serve
  deriving Repr, DecidableEq

/-- The address that requests are served at. -/
structure Server where
  /-- The host. -/
  host : Text
  /-- The port. -/
  port : Int
  /-- Whether to start again when the program has changed. -/
  reload : Bool
  deriving Repr, DecidableEq

/-- A command with all it needs. -/
inductive Invocation where
  /-- List the indexes of files. -/
  | indexes (paths : List Path)
  /-- Show a page of the results of a query, the first one if none is named. -/
  | search (paths : List Path) (query : Text) (page : Option Int)
  /-- Show the most frequent values of an index, or of all if its name is
  empty. -/
  | fields (paths : List Path) (index : Text) (top : Int)
  /-- Save the results of a query, at a place of the program's own if the name
  is empty. -/
  | save (paths : List Path) (query output : Text)
  /-- Serve requests. -/
  | serve (server : Server)
  deriving Repr, DecidableEq

/-- What a command line asks for. -/
inductive Request where
  /-- Run a command. -/
  | run (invocation : Invocation)
  /-- Show a help text. -/
  | help (grammar : Grammar)
  /-- Nothing, because of a fault. -/
  | misuse (grammar : Grammar) (cause : Misuse)
  deriving Repr, DecidableEq

namespace Switch

/-- The query whose results are shown. -/
def searchQuery : Switch :=
  ⟨["-q".toList, "--query".toList], .text "QUERY", "Query, e.g. \"index=localusers bob\""⟩

/-- The query whose results are saved. -/
def saveQuery : Switch := ⟨["-q".toList, "--query".toList], .text "QUERY", "Query to export"⟩

/-- The page to show. -/
def page : Switch := ⟨["--page".toList], .integer "PAGE", "Page number (1-based)"⟩

/-- The index to show. -/
def index : Switch := ⟨["--index".toList], .text "INDEX", "Only this index (case-insensitive)"⟩

/-- The number of values to show. -/
def top : Switch := ⟨["--top".toList], .integer "TOP", "Values per field (max 10)"⟩

/-- The file to save to. -/
def output : Switch := ⟨["--output".toList], .text "OUTPUT", "Output file (.csv or .xlsx)"⟩

/-- The host to serve at. -/
def host : Switch := ⟨["--host".toList], .text "HOST", "Bind address (default 127.0.0.1)"⟩

/-- The port to serve at. -/
def port : Switch := ⟨["--port".toList], .integer "PORT", "Port (default 8000)"⟩

/-- Whether to start again when the program has changed. -/
def reload : Switch := ⟨["--reload".toList], .nothing, "Enable auto-reload"⟩

end Switch

/-- The name of the program. -/
def programName : String := "forensic-reader"

namespace Command

/-- All commands. -/
def all : List Command := [.indexes, .search, .fields, .save, .serve]

/-- The name of a command. -/
def name : Command → String
  | .indexes => "indexes"
  | .search => "search"
  | .fields => "fields"
  | .save => "export"
  | .serve => "serve"

/-- What a command is for. -/
def help : Command → String
  | .indexes => "List loaded indexes"
  | .search => "Search loaded indexes"
  | .fields => "Top values per field"
  | .save => "Export query results to .csv or .xlsx"
  | .serve => "Start API server"

/-- The switches of a command. -/
def switches : Command → List Switch
  | .indexes => []
  | .search => [.searchQuery, .page]
  | .fields => [.index, .top]
  | .save => [.saveQuery, .output]
  | .serve => [.host, .port, .reload]

/-- What else may stand on the line of a command. -/
def operands : Command → Operands
  | .serve => .none
  | _ => .many "paths" "Files or folders to load"

/-- The grammar of a command. -/
def grammar (command : Command) : Grammar :=
  ⟨s!"{programName} {command.name}", none, command.switches, command.operands⟩

/-- The command of a name. -/
def ofName? (name : Text) : Option Command :=
  all.find? (fun command => command.name.toList = name)

end Command

/-- The grammar of the program. -/
def programGrammar : Grammar :=
  ⟨programName, some "Forensic Reader — offline search over forensic artifact CSV exports", [],
    .command "Command" (Command.all.map (fun command => ⟨command.name.toList, command.help⟩))⟩

namespace Reading

/-- The paths to load. -/
def paths (reading : Reading) : List Path :=
  if reading.operands.isEmpty then [Folders.inbox] else reading.operands.map Path.ofText

/-- The text of a switch, empty without it. -/
def textOf (reading : Reading) (switch : Switch) : Text := (reading.value? switch).getD []

end Reading

/-- The invocation of a command by what was read of its line. -/
def Command.invocation (command : Command) (reading : Reading) : Invocation :=
  match command with
  | .indexes => .indexes reading.paths
  | .search => .search reading.paths (reading.textOf .searchQuery) (reading.integer? .page)
  | .fields => .fields reading.paths (reading.textOf .index) ((reading.integer? .top).getD 10)
  | .save => .save reading.paths (reading.textOf .saveQuery) (reading.textOf .output)
  | .serve =>
    .serve ⟨(reading.value? .host).getD "127.0.0.1".toList, (reading.integer? .port).getD 8000,
      reading.has .reload⟩

namespace Request

/-- What stops the reading under a grammar. -/
def ofStop (grammar : Grammar) : Stop → Request
  | .help => .help grammar
  | .misuse cause => .misuse grammar cause

/-- What is asked for if the words `leftover` are of no use: a fault, if there
are any, else the given request. -/
def orUnrecognized (leftover : List Text) (request : Request) : Request :=
  if leftover.isEmpty then request else .misuse programGrammar (.unrecognized leftover)

/-- What is asked of a command, when `leftover` was of no use before its
name. -/
def ofCommand (leftover : List Text) (command : Command) (words : List Text) : Request :=
  match Reading.ofTexts command.grammar words with
  | .error stop => ofStop command.grammar stop
  | .ok reading =>
    orUnrecognized (leftover ++ reading.leftover) (.run (command.invocation reading))

/-- What a command line asks for. Without a command that is the help text. -/
def ofTexts (words : List Text) : Request :=
  match Reading.ofTexts programGrammar words with
  | .error stop => ofStop programGrammar stop
  | .ok reading =>
    match reading.operands with
    | [] => orUnrecognized reading.leftover (.help programGrammar)
    | name :: rest =>
      if name = "--".toList && rest.isEmpty then
        orUnrecognized (reading.leftover ++ [name]) (.help programGrammar)
      else match Command.ofName? name with
        | some command => ofCommand reading.leftover command rest
        | none =>
          .misuse programGrammar
            (.unknownCommand name (Command.all.map (fun command => command.name.toList)))

end Request

end ArtifactSearch.CommandLine
