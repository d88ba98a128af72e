import ArtifactSearch.Number.Double
import ArtifactSearch.Service.IntegerText
import ArtifactSearch.Service.Request

/-!
# ArtifactSearch.Service.Validation

**Reading bodies.** A body must be an object. The query in it is a text, by
default the empty one; the page is an integer, or what stands for one: a truth
value, a text (`IntegerText`), or a number with places whose nearest double is
an integer of 64 bits. Other fields do not matter.
-/

namespace ArtifactSearch.Service

/-- What is wrong with a part of a request. -/
inductive Problem where
  /-- It is missing. -/
  | missing
  /-- It is no object. -/
  | notAnObject
  /-- It is no text. -/
  | notAText
  /-- It is of no kind that stands for integers. -/
  | notAnInteger
  /-- It is a text that stands for no integer. -/
  | badInteger
  /-- It is a number of more digits than are read. -/
  | longInteger
  /-- It is a number that is no integer. -/
  | fraction
  /-- It is a number beyond the largest double. -/
  | infinite
  /-- It is no file. -/
  | notAFile
  deriving Repr, DecidableEq

/-- The name of a problem. -/
def Problem.name : Problem → String
  | .missing => "missing"
  | .notAnObject => "model_attributes_type"
  | .notAText => "string_type"
  | .notAnInteger => "int_type"
  | .badInteger => "int_parsing"
  | .longInteger => "int_parsing_size"
  | .fraction => "int_from_float"
  | .infinite => "finite_number"
  | .notAFile => "value_error"

/-- A step from a part of a request into a part of that. -/
inductive Part where
  /-- The part of a name. -/
  | field (name : String)
  /-- The part at a position, from zero. -/
  | item (position : Nat)
  deriving Repr, DecidableEq

/-- A problem and the part that has it, from the outside in. -/
structure Invalid where
  /-- The problem. -/
  problem : Problem
  /-- The part. -/
  location : List Part
  deriving Repr, DecidableEq

/-- A problem with the body as a whole. -/
def Invalid.ofBody (problem : Problem) : Invalid := ⟨problem, [.field "body"]⟩

/-- A problem with a field of the body. -/
def Invalid.ofField (name : String) (problem : Problem) : Invalid :=
  ⟨problem, [.field "body", .field name]⟩

/-- A problem with the file at a position. -/
def Invalid.ofFile (position : Nat) (problem : Problem) : Invalid :=
  ⟨problem, [.field "body", .field "files", .item position]⟩

namespace Body

/-- The fields of a body. -/
def fields : Body → Except Invalid (Entries FieldValue)
  | .absent => .error (.ofBody .missing)
  | .object fields => .ok fields
  | .other _ => .error (.ofBody .notAnObject)

/-- The query in a body. -/
def query (body : Body) : Except Invalid Text := do
  match (← body.fields).get? "query".toList with
  | some (.text s) => return s
  | some _ => throw (.ofField "query" .notAText)
  | none => return []

/-- The integer that a double stands for: it has 64 bits, and the least one of
them does not count. -/
def integerOfDouble (x : Double) : Except Problem Int :=
  if !x.isFinite then .error .infinite
  else match x.integer? with
    | none => .error .fraction
    | some n => if n.natAbs < 0x8000000000000000 then .ok n else .error .longInteger

/-- The integer that a value stands for. -/
def integerOf : FieldValue → Except Problem Int
  | .integer n => .ok n
  | .truth b => .ok (if b then 1 else 0)
  | .decimal d => integerOfDouble d.nearest
  | .text s =>
    (IntegerText.read s).mapError (fun
      | .malformed => .badInteger
      | .tooLong => .longInteger)
  | .null | .composite _ => .error .notAnInteger

/-- The page in a body. -/
def page (body : Body) : Except Invalid Int := do
  match (← body.fields).get? "page".toList with
  | some value => (integerOf value).mapError (.ofField "page")
  | none => throw (.ofField "page" .missing)

end Body

end ArtifactSearch.Service
