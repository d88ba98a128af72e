import ArtifactSearch.Table

/-!
# ArtifactSearch.Index

An **index**: the table of one ingested file, under its name and together with
the name of the file it came from. The **index map** holds the loaded indexes
under their keys, in the order in which they were first loaded.
-/

namespace ArtifactSearch

/-- One ingested file, queried as a unit. -/
structure Index where
  /-- The name that queries and results use. -/
  name : Text
  /-- The distinct columns of the file. -/
  columns : List Text
  /-- The records of the file, in line order. -/
  records : List Record
  /-- The name of the file. -/
  fileName : Text
  deriving Repr, DecidableEq

namespace Index

/-- The index of a table read from a file. -/
def ofTable (name fileName : Text) (table : Table) : Index :=
  ⟨name, table.columns, table.records, fileName⟩

/-- Whether two indexes hold the same. The order of the keys in their records does
not count. -/
def alike (a b : Index) : Bool :=
  a.name = b.name && a.columns = b.columns && a.fileName = b.fileName &&
    a.records.length = b.records.length &&
    (a.records.zip b.records).all (fun (r, s) => Entries.alike r s)

/-- The number of records. -/
def rowCount (index : Index) : Nat := index.records.length

end Index

/-- The loaded indexes under their keys. -/
abbrev IndexMap := Entries Index

end ArtifactSearch
