import ArtifactSearch.Content
import ArtifactSearch.Document
import ArtifactSearch.Service.Reception
import ArtifactSearch.Service.Validation

/-!
# ArtifactSearch.Service.Reply

**Replies** of the service. A request is answered or refused; a failure is
neither, it leaves the request without any reply.
-/

namespace ArtifactSearch.Service

/-- A file that was taken in. -/
structure UploadedFile where
  /-- The name it goes on under. -/
  fileName : Text
  /-- The key of its index. -/
  key : Text
  /-- The number of records of its index. -/
  rows : Nat
  deriving Repr, DecidableEq

/-- A page of results. -/
structure ResultPage where
  /-- The query. -/
  query : Text
  /-- The page. -/
  page : Int
  /-- The number of pages. -/
  pages : Int
  /-- The largest number of results on a page. -/
  pageSize : Int
  /-- What all results come to. -/
  summary : Summary
  /-- The columns that an export would have. -/
  columns : List Text
  /-- The results on the page. -/
  rows : List (Hit Text)
  deriving Repr, DecidableEq

/-- What is told if there are no results. -/
def ResultPage.message? (page : ResultPage) : Option String :=
  if page.summary.results = 0 then some "No results found" else none

/-- An answer. -/
inductive Answer where
  /-- The service is well. -/
  | health (indexes rows revision : Nat)
  /-- The indexes. -/
  | list (indexes : List Index)
  /-- Files were taken in. -/
  | uploaded (files : List UploadedFile)
  /-- An index was removed, if there was one of the name. -/
  | removed (name : Text) (was : Bool)
  /-- Everything was removed. -/
  | cleared
  /-- The profiles of an index. -/
  | profiles (name : Text) (profiles : List Profile)
  /-- The query and the page that are set. -/
  | cursor (query : Text) (page pageSize : Int)
  /-- A page of results. -/
  | results (page : ResultPage)
  /-- A document of a name. -/
  | document (name : Text) (document : Document)
  deriving Repr, DecidableEq

/-- Why a request is refused. -/
inductive Refusal where
  /-- The service has not started. -/
  | notStarted
  /-- No endpoint answers. -/
  | unanswered (fault : RoutingFault)
  /-- What the request carries cannot be read. -/
  | unreadable (fault : BodyFault)
  /-- There is no index of this name. -/
  | noIndex (name : Text)
  /-- A file has lost its name. -/
  | unnamedFile
  /-- A file is rejected. -/
  | rejectedFile (fileName : Text) (cause : Rejection)
  /-- There are no documents of this format. -/
  | unknownFormat (format : Text)
  /-- Parts of the request are not valid. -/
  | invalid (parts : List Invalid)
  deriving Repr, DecidableEq

namespace Refusal

/-- The status of a refusal. -/
def status : Refusal → Nat
  | .notStarted => 503
  | .unanswered .nothing => 404
  | .unanswered .method => 405
  | .unreadable _ => 400
  | .noIndex _ => 404
  | .unnamedFile => 400
  | .rejectedFile _ _ => 400
  | .unknownFormat _ => 400
  | .invalid _ => 422

/-- The wording of a refusal, unless it consists of what is not valid. -/
def detail? : Refusal → Option Text
  | .notStarted => some "Server not initialized yet".toList
  | .unanswered .nothing => some "Not Found".toList
  | .unanswered .method => some "Method Not Allowed".toList
  | .unreadable fault => some fault.message
  | .noIndex name => some ("Index not found: ".toList ++ name)
  | .unnamedFile => some "Missing filename".toList
  | .rejectedFile fileName cause =>
    some ("Cannot read '".toList ++ fileName ++ "' as text: ".toList ++ cause.message)
  | .unknownFormat format =>
    some ("Unknown export format: ".toList ++ format ++ ". Valid: ['csv', 'xlsx']".toList)
  | .invalid _ => none

end Refusal

/-- What comes of a request. -/
inductive Reply where
  /-- An answer. -/
  | answer (answer : Answer)
  /-- A refusal. -/
  | refusal (refusal : Refusal)
  /-- A failure to read a file. -/
  | failure (error : ContentError)
  /-- A failure to make a document. -/
  | noDocument (error : Workbook.StepError)
  deriving Repr, DecidableEq

/-- The status of an answer. -/
def answerStatus : Nat := 200

/-- The status of a reply. A failure has none. -/
def Reply.status? : Reply → Option Nat
  | .answer _ => some answerStatus
  | .refusal cause => some cause.status
  | .failure _ | .noDocument _ => none

/-- The media type of a document. -/
def mediaType : Document → String
  | .csv _ => "text/csv; charset=utf-8"
  | .workbook _ => "application/vnd.openxmlformats-officedocument.spreadsheetml.sheet"

/-- How a document of a name is to be received. -/
def disposition (name : Text) : Text := "attachment; filename=\"".toList ++ name ++ ['"']

end ArtifactSearch.Service
