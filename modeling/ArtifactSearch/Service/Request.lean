import ArtifactSearch.Bytes.BitStream
import ArtifactSearch.Entries
import ArtifactSearch.Number.Double

/-!
# ArtifactSearch.Service.Request

**Requests** to the service: a method, the components of the path, and what else
a request may carry. Of a body, only what the service looks at is kept: whether
it is an object, the kinds of the values in it, and the integers anywhere in it.
-/

namespace ArtifactSearch.Service

/-- The method of a request. -/
inductive Method where
  /-- Read something. -/
  | get
  /-- Submit something. -/
  | post
  /-- Remove something. -/
  | delete
  deriving Repr, DecidableEq

/-- A value in a body. -/
inductive FieldValue where
  /-- The null value. -/
  | null
  /-- A truth value. -/
  | truth (b : Bool)
  /-- A number without a point. -/
  | integer (n : Int)
  /-- A number with a point. -/
  | decimal (d : Decimal)
  /-- A text. -/
  | text (s : Text)
  /-- A list or an object with these integers in it. -/
  | composite (integers : List Int)
  deriving Repr, DecidableEq

/-- The body of a request. -/
inductive Body where
  /-- There is none. -/
  | absent
  /-- An object. -/
  | object (fields : Entries FieldValue)
  /-- Anything else, with these integers in it. -/
  | other (integers : List Int)
  deriving Repr, DecidableEq

/-- A request. -/
structure Request where
  /-- The method. -/
  method : Method
  /-- The components of the path, as they are before it is put together. -/
  components : List Text
  /-- The files it carries, by name. -/
  files : List (Text × Bytes)
  /-- The body. -/
  body : Body
  /-- The format it asks for. -/
  format : Option Text
  deriving Repr, DecidableEq

namespace Request

/-- A request without anything beside its path. -/
def plain (method : Method) (components : List Text) : Request :=
  ⟨method, components, [], .absent, none⟩

/-- The path below the root of the service. -/
def api (components : List Text) : List Text := "api".toList :: components

/-- Ask whether the service is well. -/
def health : Request := plain .get (api ["health".toList])

/-- Ask for the indexes. -/
def list : Request := plain .get (api ["indexes".toList])

/-- Submit files. -/
def upload (files : List (Text × Bytes)) : Request :=
  { plain .post (api ["upload".toList]) with files := files }

/-- Remove the index of a name. -/
def remove (name : Text) : Request := plain .delete (api ["indexes".toList, name])

/-- Remove everything. -/
def clear : Request := plain .delete (api ["indexes".toList])

/-- Ask for the profiles of the index of a name. -/
def profiles (name : Text) : Request :=
  plain .get (api ["indexes".toList, name, "fields".toList])

/-- Set the query. -/
def setQuery (body : Body) : Request := { plain .post (api ["query".toList]) with body := body }

/-- Set the page. -/
def setPage (body : Body) : Request := { plain .post (api ["page".toList]) with body := body }

/-- Ask for the page of results that is shown. -/
def results : Request := plain .get (api ["results".toList])

/-- Ask for a document with all results. -/
def document (format : Option Text) : Request :=
  { plain .get (api ["export".toList]) with format := format }

end Request

end ArtifactSearch.Service
