import ArtifactSearch.Store.Basic

/-!
# ArtifactSearch.Store.Paging

**Pages of results.** Pages are numbered from one. A page number is not checked
when it is set: a page beyond the last is empty, and so is every page below the
first. `shownPage` is the page to show instead, which always exists.

Bounds of a slice may be negative and then count from the end, so that paging
is defined for every page size, sensible or not.
-/

namespace ArtifactSearch

namespace Paging

/-- A bound as a position in a list of `length` members: negative bounds count
from the end, and all are clamped to the list. -/
def position (length : Nat) (bound : Int) : Nat :=
  if bound < 0 then (length + bound).toNat else min bound.toNat length

/-- The members between two bounds. -/
def slice {α : Type} (lower upper : Int) (xs : List α) : List α :=
  (xs.take (position xs.length upper)).drop (position xs.length lower)

/-- The number of pages for `count` results, at least one. For a page size that
is not positive it is one. -/
def pageCount (pageSize : Int) (count : Nat) : Int :=
  if pageSize ≤ 0 then 1 else max 1 ((count + pageSize - 1) / pageSize)

/-- The results on a page. -/
def page {α : Type} (pageSize page : Int) (results : List α) : List α :=
  if page < 1 then []
  else slice ((page - 1) * pageSize) ((page - 1) * pageSize + pageSize) results

/-- The page among `pages` to show when `current` is set. -/
def clamp (pages current : Int) : Int := min (max current 1) pages

end Paging

namespace Store

/-- The number of pages for `count` results. With pages of size zero there is
no such number. -/
def pageCount? (store : Store) (count : Nat) : Option Int :=
  if store.pageSize = 0 then none else some (Paging.pageCount store.pageSize count)

/-- The results on a page of the store's size. -/
def pageOf (store : Store) (page : Int) (results : List (Hit Text)) : List (Hit Text) :=
  Paging.page store.pageSize page results

/-- The page to show of `count` results. -/
def shownPage (store : Store) (count : Nat) : Int :=
  Paging.clamp (Paging.pageCount store.pageSize count) store.page

/-- The position, from one, of the first result on the page that is shown. -/
def firstShown (store : Store) (count : Nat) : Int :=
  (store.shownPage count - 1) * store.pageSize + 1

end Store

/-- How many results there are, and of how many indexes. -/
structure Summary where
  /-- The number of results. -/
  results : Nat
  /-- The number of indexes with a result. -/
  indexes : Nat
  deriving Repr, DecidableEq

/-- The summary of results. -/
def Summary.of (hits : List (Hit Text)) : Summary := ⟨hits.length, (Export.represented hits).length⟩

end ArtifactSearch
