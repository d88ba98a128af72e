import ArtifactSearch.Service.Endpoint
import ArtifactSearch.Service.Submission
import ArtifactSearch.Text.Integer

/-!
# ArtifactSearch.Service.Reception

**Reception**: what a request carries is read as soon as its endpoint is known,
before anything else is decided. A form must be within its limits, and no integer
in a body may have more digits than are read (`Text.maxDigits`), wherever it
stands. An endpoint that asks for nothing does not notice what comes along.
-/

namespace ArtifactSearch.Service

/-- Why what a request carries cannot be read. -/
inductive BodyFault where
  /-- The form has a fault. -/
  | form (fault : FormFault)
  /-- An integer has too many digits. -/
  | longInteger
  deriving Repr, DecidableEq

/-- The wording of a fault. -/
def BodyFault.message : BodyFault → Text
  | .form fault => fault.message
  | .longInteger => "There was an error parsing the body".toList

/-- The integers written in a value. -/
def FieldValue.integers : FieldValue → List Int
  | .integer n => [n]
  | .composite integers => integers
  | .null | .truth _ | .decimal _ | .text _ => []

namespace Body

/-- The integers written in a body. -/
def integers : Body → List Int
  | .absent => []
  | .object fields => fields.values.flatMap FieldValue.integers
  | .other integers => integers

/-- Whether no integer in a body has too many digits. -/
def isReadable (body : Body) : Bool :=
  body.integers.all (fun n => n.natAbs < Nat.pow 10 Text.maxDigits)

end Body

namespace Request

/-- The form that the files of a request travel as. -/
def form (request : Request) : List FormPart := request.files.map FormPart.ofFile

/-- The fault of what a request carries to an endpoint. -/
def bodyFault? (request : Request) : Endpoint → Option BodyFault
  | .upload => (FormFault.ofForm? request.form).map .form
  | .setQuery | .setPage => if request.body.isReadable then none else some .longInteger
  | .health | .list | .remove _ | .clear | .profiles _ | .results | .document => none

end Request

end ArtifactSearch.Service
