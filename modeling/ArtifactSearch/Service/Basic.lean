import ArtifactSearch.Load
import ArtifactSearch.Service.Reply

/-!
# ArtifactSearch.Service.Basic

The **service**: a store that answers requests one after another.

* A request arrives at an endpoint, and what it carries is read there. Before the
  service has started, whatever comes so far is refused.
* Files are taken in all together or not at all: every part of a form must be a
  file, and every file must have a text, before the first one is ingested.
* A request that only asks for something, is refused or fails leaves the store
  as it is.
-/

namespace ArtifactSearch.Service

/-- What becomes of a failure to read a file: a rejected file is refused. -/
def replyOfError : ContentError → Reply
  | .rejected fileName cause => .refusal (.rejectedFile fileName cause)
  | error => .failure error

/-- The name and the text of a file, or what is replied if it has none. -/
def decodeFile (file : Text × Bytes) : Except Reply (Text × Text) :=
  if file.1.isEmpty then .error (.refusal .unnamedFile)
  else (Content.decode file.1 file.2).mapError replyOfError

/-- The name and the text of every file, or what is replied for the first one
without. -/
def decodeAll (files : List (Text × Bytes)) : Except Reply (List (Text × Text)) :=
  files.mapM decodeFile

/-- The files of a form, if there are any and all its parts are files. -/
def filesOf (parts : List FormPart) : Except (List Invalid) (List (Text × Bytes)) :=
  let misplaced := parts.zipIdx.filterMap (fun
    | (.plain _, position) => some (Invalid.ofFile position .notAFile)
    | (.file _ _, _) => none)
  if parts.isEmpty then .error [.ofField "files" .missing]
  else if misplaced.isEmpty then
    .ok (parts.filterMap (fun
      | .file name bytes => some (name, bytes)
      | .plain _ => none))
  else .error misplaced

/-- The store with files of the given texts ingested one after another, and what
each of them came to. -/
def ingestAll (store : Store) : List (Text × Text) → List UploadedFile × Store
  | [] => ([], store)
  | (fileName, content) :: rest =>
    let store := store.ingest fileName content
    let key := store.keyFor fileName
    let rows := ((store.indexes.get? key).map Index.rowCount).getD 0
    let (uploaded, last) := ingestAll store rest
    (⟨fileName, key, rows⟩ :: uploaded, last)

/-- The reply to files, and the store after them. -/
def ingestFiles (store : Store) (files : List (Text × Bytes)) : Reply × Store :=
  match decodeAll files with
  | .ok decoded =>
    let (uploaded, store) := ingestAll store decoded
    (.answer (.uploaded uploaded), store)
  | .error reply => (reply, store)

/-- The reply to a form, and the store after it. -/
def upload (store : Store) (parts : List FormPart) : Reply × Store :=
  match filesOf parts with
  | .ok files => ingestFiles store files
  | .error invalid => (.refusal (.invalid invalid), store)

/-- The query and the page that are set. -/
def cursor (store : Store) : Reply := .answer (.cursor store.query store.page store.pageSize)

/-- The reply to a body that asks for a change, and the store after it. -/
def change (store : Store) (change : Except Invalid Store.Change) : Reply × Store :=
  match change with
  | .ok change => (cursor (store.apply change), store.apply change)
  | .error invalid => (.refusal (.invalid [invalid]), store)

/-- The page of results that is shown. -/
def resultPage (store : Store) : ResultPage :=
  let hits := store.results
  let page := store.shownPage hits.length
  { query := store.query
    page := page
    pages := Paging.pageCount store.pageSize hits.length
    pageSize := store.pageSize
    summary := Summary.of hits
    columns := Export.columns store.indexes hits
    rows := store.pageOf page hits }

/-- The document of a format with all results, named for the time of `stamp`. -/
def document (stamp : Text) (store : Store) (format : Text) : Reply :=
  let hits := store.results
  if format = "csv".toList then
    .answer (.document (Document.fileName stamp ".csv".toList)
      (.csv (Export.csv store.indexes hits)))
  else if format = "xlsx".toList then
    match Report.workbook store hits with
    | .ok book => .answer (.document (Document.fileName stamp ".xlsx".toList) (.workbook book))
    | .error error => .noDocument error
  else .refusal (.unknownFormat format)

/-- The profiles of the index of a name. -/
def profiles (store : Store) (name : Text) : Reply :=
  if store.indexes.contains name then .answer (.profiles name (store.profiles name))
  else .refusal (.noIndex name)

/-- The reply of an endpoint to a request, and the store after it. -/
def serve (stamp : Text) (store : Store) (request : Request) : Endpoint → Reply × Store
  | .health =>
    (.answer (.health store.indexes.length store.rowCount store.revision), store)
  | .list => (.answer (.list store.indexes.values), store)
  | .upload => upload store request.form
  | .remove name =>
    (.answer (.removed name (store.indexes.contains name)), store.remove name)
  | .clear => (.answer .cleared, store.clear)
  | .profiles name => (profiles store name, store)
  | .setQuery => change store (request.body.query.map .setQuery)
  | .setPage => change store (request.body.page.map .setPage)
  | .results => (.answer (.results (resultPage store)), store)
  | .document => (document stamp store (request.format.getD "csv".toList), store)

/-- The reply to a request at the time of `stamp`, and the state after it: the store,
once the service has started. -/
def step (stamp : Text) (state : Option Store) (request : Request) : Reply × Option Store :=
  match Endpoint.ofRequest request with
  | .error fault => (.refusal (.unanswered fault), state)
  | .ok endpoint =>
    match request.bodyFault? endpoint, state with
    | some fault, _ => (.refusal (.unreadable fault), state)
    | none, none => (.refusal .notStarted, none)
    | none, some store =>
      let (reply, store) := serve stamp store request endpoint
      (reply, some store)

/-- A request and the time it is answered at. -/
structure Call where
  /-- The time, as a part of file names. -/
  stamp : Text
  /-- The request. -/
  request : Request
  deriving Repr, DecidableEq

/-- The replies to calls, and the state after them. -/
def run (state : Option Store) : List Call → List Reply × Option Store
  | [] => ([], state)
  | call :: rest =>
    let (reply, state) := step call.stamp state call.request
    let (replies, state) := run state rest
    (reply :: replies, state)

/-- What the service reports once it has loaded its inbox. -/
def readyText (store : Store) : String :=
  if store.indexes.isEmpty then
    "\nForensic Reader ready — no indexes yet. Upload exports via /api/upload.\n\n"
  else
    s!"\nForensic Reader ready — {store.indexes.length} indexes, {Text.grouped store.rowCount} rows\n\n"

/-- What comes of starting the service. -/
structure Opening where
  /-- What is reported. -/
  report : String
  /-- The files after it. -/
  tree : FileTree
  /-- The store, unless the start fails. -/
  store : Except LoadError Store

/-- The start of the service with the files of an inbox, which is made if it is
missing. -/
def start (tree : FileTree) (inbox : Path) : Opening :=
  match tree.ensureFolders inbox (inbox.names.length + 1) with
  | (tree, some (fault, path)) => ⟨"", tree, .error (.path fault path)⟩
  | (tree, none) =>
    let (progress, error?) := Load.inbox tree Store.initial inbox
    let report := Notice.texts progress.notices
    match error? with
    | some error => ⟨report, tree, .error error⟩
    | none => ⟨report ++ readyText progress.store, tree, .ok progress.store⟩

end ArtifactSearch.Service
