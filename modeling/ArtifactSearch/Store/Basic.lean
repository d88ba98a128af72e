import ArtifactSearch.Export
import ArtifactSearch.IndexName
import ArtifactSearch.Profile

/-!
# ArtifactSearch.Store.Basic

The **store**: the loaded indexes with the current query and page. Results and
profiles are computed from it on demand.

* A file goes under the key its name normalizes to. Keys that differ only in
  case would be one index to a query, so a loaded key that agrees ignoring case
  is used instead (`keyFor`).
* Ingesting a file again replaces its index at its old place.
* The revision counts the changes of the index map: an ingest that changes
  nothing and the removal of a key that is not there leave it alone.
* `Change` is a change of the store as a value, so that histories are lists.
-/

namespace ArtifactSearch

/-- The loaded indexes with the current query and page. -/
structure Store where
  /-- The loaded indexes. -/
  indexes : IndexMap
  /-- The query text, as it was given. -/
  query : Text
  /-- The page, as it was given; who shows it clamps it. -/
  page : Int
  /-- The number of results on a page. -/
  pageSize : Int
  /-- The number of changes of the index map. -/
  revision : Nat
  deriving Repr, DecidableEq

namespace Store

/-- The page size unless another one is asked for. -/
def defaultPageSize : Int := 100

/-- The store without indexes. -/
def empty (pageSize : Int) : Store := ⟨[], [], 1, pageSize, 0⟩

/-- The store a program starts with. -/
def initial : Store := empty defaultPageSize

/-- The key under which the index of a file goes: the normalized name if it is
loaded, else the first loaded key that agrees with it ignoring case, else the
normalized name. -/
def keyFor (store : Store) (fileName : Text) : Text :=
  let name := IndexName.normalize fileName
  if store.indexes.contains name then name
  else (store.indexes.keys.find? (fun key => Text.lower key = Text.lower name)).getD name

/-- The store with the index of a file. If the one loaded under its key holds the
same, nothing changes. -/
def ingest (store : Store) (fileName content : Text) : Store :=
  let key := store.keyFor fileName
  let index := Index.ofTable key fileName (Table.parse content)
  if (store.indexes.get? key).any index.alike then store
  else { store with
    indexes := store.indexes.put key index
    revision := store.revision + 1 }

/-- The store without the index under `key`. -/
def remove (store : Store) (key : Text) : Store :=
  if store.indexes.contains key then
    { store with
      indexes := store.indexes.erase key
      revision := store.revision + 1 }
  else store

/-- The store without any index, with a blank query and at the first page. -/
def clear (store : Store) : Store :=
  { store with
    indexes := []
    query := []
    page := 1
    revision := store.revision + 1 }

/-- The store with another query, at the first page. -/
def setQuery (store : Store) (query : Text) : Store := { store with query := query, page := 1 }

/-- The store at another page. -/
def setPage (store : Store) (page : Int) : Store := { store with page := page }

/-- A change of the store. -/
inductive Change where
  /-- Take in a file. -/
  | ingest (fileName content : Text)
  /-- Drop the index under a key. -/
  | remove (key : Text)
  /-- Drop everything. -/
  | clear
  /-- Set the query. -/
  | setQuery (query : Text)
  /-- Set the page. -/
  | setPage (page : Int)
  deriving Repr, DecidableEq

/-- The store after a change. -/
def apply (store : Store) : Change → Store
  | .ingest fileName content => store.ingest fileName content
  | .remove key => store.remove key
  | .clear => store.clear
  | .setQuery query => store.setQuery query
  | .setPage page => store.setPage page

/-- The store after changes, one after another. -/
def applyAll (store : Store) (changes : List Change) : Store := changes.foldl apply store

/-- The results of the current query. -/
def results (store : Store) : List (Hit Text) := Query.evaluate store.query store.indexes

/-- The field profiles of the index under `key`; none if there is no such
index. -/
def profiles (store : Store) (key : Text) : List Profile :=
  match store.indexes.get? key with
  | some index => Profile.ofRecords Profile.defaultLimit index.columns index.records
  | none => []

/-- The number of records of all indexes together. -/
def rowCount (store : Store) : Nat :=
  store.indexes.values.foldr (fun index total => index.rowCount + total) 0

end Store

end ArtifactSearch
