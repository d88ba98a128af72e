import ArtifactSearch.Table

/-!
# ArtifactSearch.Profile

**Field profiles**: for each column, its most frequent values with their
counts. Empty values do not count; of equally frequent values the one seen first
comes first. A negative limit drops that many from the end.
-/

namespace ArtifactSearch

/-- The most frequent values of one column, with their counts. -/
structure Profile where
  /-- The column. -/
  column : Text
  /-- Values and counts, the most frequent first. -/
  top : List (Text × Nat)
  deriving Repr, DecidableEq

namespace Profile

/-- The largest number of values a profile shows. -/
def defaultLimit : Int := 10

/-- The first `limit` members; a negative limit counts from the end. -/
def head {α : Type} (limit : Int) (xs : List α) : List α :=
  if limit < 0 then xs.take (xs.length - limit.natAbs) else xs.take limit.natAbs

/-- The distinct values with their counts, in order of first occurrence. -/
def counts (values : List Text) : List (Text × Nat) :=
  values.eraseDups.map (fun value => (value, values.count value))

/-- The distinct values with their counts, the most frequent first, equally
frequent ones in order of first occurrence. -/
def ranked (values : List Text) : List (Text × Nat) :=
  (counts values).mergeSort (fun a b => b.2 ≤ a.2)

/-- The most frequent values that are not empty. -/
def topValues (limit : Int) (values : List Text) : List (Text × Nat) :=
  head limit (ranked (values.filter (fun value => !value.isEmpty)))

/-- One profile per column. A record without the column has no value there. -/
def ofRecords (limit : Int) (columns : List Text) (records : List Record) : List Profile :=
  columns.map (fun column =>
    ⟨column, topValues limit (records.filterMap (fun record => record.get? column))⟩)

end Profile

end ArtifactSearch
