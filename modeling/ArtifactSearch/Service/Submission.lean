import ArtifactSearch.Bytes.BitStream
import ArtifactSearch.Text.Quote

/-!
# ArtifactSearch.Service.Submission

**Files on their way** to the service. A file travels as a part of a form, with
its name in quotes.

* A quote or a control character in the name arrives percent-encoded; only the
  escape character arrives as it is.
* Of a name that starts with the letter of a drive or the name of a host, only
  what stands behind the last backslash arrives.
* A part without a name is no file.

A form is not read to its end once it has too many files or other parts, or a part
that is no file and too large (`FormFault`).
-/

namespace ArtifactSearch.Service

/-- A part of a form. -/
inductive FormPart where
  /-- A file. -/
  | file (name : Text) (bytes : Bytes)
  /-- A part that is no file, of so many bytes. -/
  | plain (size : Nat)
  deriving Repr, DecidableEq

namespace FormPart

/-- A character of a name in quotes. -/
def quoted (c : Char) : Text :=
  if c = '"' || (c.toNat < 0x20 && c ≠ '\x1b') then
    '%' :: (Text.hexDigits 2 c.toNat).map Char.toUpper
  else [c]

/-- Whether a name tells a drive or a host. -/
def isElsewhere : Text → Bool
  | '\\' :: '\\' :: _ => true
  | drive :: ':' :: '\\' :: _ => drive.toNat < 0x80
  | _ => false

/-- A name as it arrives. -/
def arrived (name : Text) : Text :=
  let name := name.flatMap quoted
  if isElsewhere name then ((Text.split '\\' name).getLast?).getD [] else name

/-- The part that a file of the given name travels as. -/
def ofFile (file : Text × Bytes) : FormPart :=
  if file.1.isEmpty then .plain file.2.length else .file (arrived file.1) file.2

example : arrived "C:\\a\\\"b\n.csv".toList = "%22b%0A.csv".toList := by decide

end FormPart

/-- Why a form is not read to its end. -/
inductive FormFault where
  /-- There are too many files. -/
  | manyFiles
  /-- There are too many parts that are no files. -/
  | manyFields
  /-- A part that is no file is too large. -/
  | largeField
  deriving Repr, DecidableEq

namespace FormFault

/-- The largest number of files in a form. -/
def maxFiles : Nat := 1000

/-- The largest number of other parts in a form. -/
def maxFields : Nat := 1000

/-- The largest number of bytes in a part that is no file. -/
def maxFieldSize : Nat := 1024 * 1024

/-- The wording of a fault. -/
def message : FormFault → Text
  | .manyFiles => s!"Too many files. Maximum number of files is {maxFiles}.".toList
  | .manyFields => s!"Too many fields. Maximum number of fields is {maxFields}.".toList
  | .largeField => s!"Part exceeded maximum size of {maxFieldSize / 1024}KB.".toList

/-- The first fault among parts if so many files and other parts may come. -/
def first? : (files fields : Nat) → List FormPart → Option FormFault
  | _, _, [] => none
  | 0, _, .file _ _ :: _ => some .manyFiles
  | files + 1, fields, .file _ _ :: rest => first? files fields rest
  | _, 0, .plain _ :: _ => some .manyFields
  | files, fields + 1, .plain size :: rest =>
    if maxFieldSize < size then some .largeField else first? files fields rest

/-- The fault of a form. -/
def ofForm? (parts : List FormPart) : Option FormFault := first? maxFiles maxFields parts

end FormFault

end ArtifactSearch.Service
