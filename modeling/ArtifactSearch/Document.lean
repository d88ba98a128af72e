import ArtifactSearch.Files.Tree
import ArtifactSearch.Workbook.Report

/-!
# ArtifactSearch.Document

**Documents** that search results are saved as, and where they go unless
somebody says otherwise.
-/

namespace ArtifactSearch

namespace Folders

/-- The folder that is loaded unless others are asked for. -/
def inbox : Path := .relative ["data".toList, "inbox".toList]

/-- The folder for documents. -/
def exports : Path := .relative ["data".toList, "exports".toList]

end Folders

/-- A document with search results. -/
inductive Document where
  /-- A delimited text. -/
  | csv (text : Text)
  /-- A workbook. -/
  | workbook (book : Workbook)
  deriving Repr, DecidableEq

namespace Document

/-- The name of a document that is saved at the time of `stamp`. -/
def fileName (stamp extension : Text) : Text :=
  "forensic-results-".toList ++ stamp ++ extension

/-- The document to save at a path: a workbook if the extension says so, in any
casing, else a delimited text. Only a workbook can fail to be made. -/
def ofResults (store : Store) (hits : List (Hit Text)) (path : Path) :
    Except Workbook.StepError Document :=
  if Text.lower path.suffix = ".xlsx".toList then (Report.workbook store hits).map .workbook
  else .ok (.csv (Export.csv store.indexes hits))

/-- The bytes of a document as a file. The file format of workbooks is not a
matter of this library, so there are none for them. -/
def bytes : Document → Bytes
  | .csv text => (String.ofList text).toUTF8.toList
  | .workbook _ => []

end Document

end ArtifactSearch
