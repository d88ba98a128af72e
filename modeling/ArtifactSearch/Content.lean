import ArtifactSearch.Bytes.Encoding
import ArtifactSearch.Bytes.Gzip
import ArtifactSearch.Text.Lower

/-!
# ArtifactSearch.Content

**The text of a file** from its name and bytes. A file whose name ends in `.gz`,
in any casing, is unpacked first and goes on under the name without it. Bytes
with a zero among them are taken for binary data.

A file can be **rejected**, which its reader reports and goes on from. Two
failures are of another kind: wrong deflated data, and an encoding that nobody
knows.
-/

namespace ArtifactSearch

/-- Why a file is rejected. -/
inductive Rejection where
  /-- The gzip data are damaged. -/
  | badGzip (error : GzipError)
  /-- There are zero bytes. -/
  | binary
  /-- The bytes are no text in the encoding of this name. -/
  | notText (encoding : Text) (fault : EncodingFault)
  deriving Repr, DecidableEq

/-- The wording of a rejection. -/
def Rejection.message : Rejection → Text
  | .badGzip error => "bad gzip data (".toList ++ error.message ++ [')']
  | .binary => "binary content (NUL bytes)".toList
  | .notText encoding fault =>
    "not ".toList ++ encoding ++ " text (".toList ++ fault.message.toList ++ [')']

/-- Why a file has no text. -/
inductive ContentError where
  /-- The file of this name is rejected. -/
  | rejected (fileName : Text) (cause : Rejection)
  /-- The deflated data are wrong. -/
  | corrupt (fault : DeflateFault)
  /-- There is no encoding of this name. -/
  | unknownEncoding (name : Text)
  deriving Repr, DecidableEq

/-- The wording of an error. -/
def ContentError.message : ContentError → Text
  | .rejected fileName cause => fileName ++ ": ".toList ++ cause.message
  | .corrupt fault => (GzipError.corrupt fault).message
  | .unknownEncoding name => "unknown encoding: ".toList ++ name

namespace Content

/-- The name of the encoding that files are read in. -/
def defaultEncoding : Text := "utf-8-sig".toList

/-- Whether a file of this name is unpacked first. -/
def isPacked (fileName : Text) : Bool := ".gz".toList.isSuffixOf (Text.lower fileName)

/-- The name and the bytes of a file once it is unpacked. -/
def unpack (fileName : Text) (raw : Bytes) : Except ContentError (Text × Bytes) :=
  if isPacked fileName then
    match gunzip raw with
    | .ok bytes => .ok (fileName.take (fileName.length - 3), bytes)
    | .error (.corrupt fault) => .error (.corrupt fault)
    | .error error => .error (.rejected fileName (.badGzip error))
  else .ok (fileName, raw)

/-- The text of unpacked bytes. No bytes are the empty text in every encoding,
known or not. -/
def textOf (encoding fileName : Text) (bytes : Bytes) : Except ContentError Text :=
  if bytes.contains 0 then .error (.rejected fileName .binary)
  else if bytes.isEmpty then .ok []
  else match Encoding.ofName? encoding with
    | none => .error (.unknownEncoding encoding)
    | some known =>
      match known.decode bytes with
      | .ok text => .ok text
      | .error fault => .error (.rejected fileName (.notText encoding fault))

/-- The name and the text of a file, in the encoding of the given name. -/
def decodeIn (encoding fileName : Text) (raw : Bytes) : Except ContentError (Text × Text) := do
  let (fileName, bytes) ← unpack fileName raw
  return (fileName, ← textOf encoding fileName bytes)

/-- The name and the text of a file. -/
def decode (fileName : Text) (raw : Bytes) : Except ContentError (Text × Text) :=
  decodeIn defaultEncoding fileName raw

end Content

end ArtifactSearch
