import ArtifactSearch.Service.Percent
import ArtifactSearch.Service.Request

/-!
# ArtifactSearch.Service.Endpoint

**Where requests arrive.** The components of a path are put together with
slashes and taken apart again, so a name with a slash in it counts as several
segments. Components that are single or double dots lead nowhere or one up, as
in every address. What is percent-encoded in a component is decoded on arrival,
and so a name may also hold slashes in that form.

A path that nothing answers but that ends in slashes is led on to the path
without them, if there is something, and arrives there anew.
-/

namespace ArtifactSearch.Service

/-- What answers a request. -/
inductive Endpoint where
  /-- Tells whether the service is well. -/
  | health
  /-- Lists the indexes. -/
  | list
  /-- Takes in files. -/
  | upload
  /-- Removes the index of a name. -/
  | remove (name : Text)
  /-- Removes everything. -/
  | clear
  /-- Shows the profiles of the index of a name. -/
  | profiles (name : Text)
  /-- Sets the query. -/
  | setQuery
  /-- Sets the page. -/
  | setPage
  /-- Shows a page of results. -/
  | results
  /-- Gives a document with all results. -/
  | document
  deriving Repr, DecidableEq

/-- What stands at a path: an endpoint for each method that is answered. -/
abbrev Resource := List (Method × Endpoint)

namespace Resource

/-- What stands at the path of the given segments; nothing is no resource. A line
end behind the last one of a longest path does not matter. -/
def ofSegments (segments : List Text) : Resource :=
  match segments.map String.ofList with
  | ["api", "health"] => [(.get, .health)]
  | ["api", "indexes"] => [(.get, .list), (.delete, .clear)]
  | ["api", "indexes", name] => if name.isEmpty then [] else [(.delete, .remove name.toList)]
  | ["api", "indexes", name, "fields"] | ["api", "indexes", name, "fields\n"] =>
    if name.isEmpty then [] else [(.get, .profiles name.toList)]
  | ["api", "upload"] => [(.post, .upload)]
  | ["api", "query"] => [(.post, .setQuery)]
  | ["api", "page"] => [(.post, .setPage)]
  | ["api", "results"] => [(.get, .results)]
  | ["api", "export"] => [(.get, .document)]
  | _ => []

/-- Components without those that are dots. -/
def resolve (components : List Text) : List Text :=
  components.foldl
    (fun before component =>
      if component = ['.'] then before
      else if component = ['.', '.'] then before.dropLast
      else before ++ [component])
    []

/-- The segments that components come apart into on arrival. -/
def segments (components : List Text) : List Text :=
  (resolve components).flatMap (fun component => Text.split '/' (Percent.decode component))

/-- Segments without empty ones at the end. -/
def withoutTrailing (segments : List Text) : List Text :=
  (segments.reverse.dropWhile List.isEmpty).reverse

/-- What stands where the given segments lead, if they are led on at most `fuel`
times. -/
def follow : (fuel : Nat) → (segments : List Text) → Resource
  | 0, arrived => ofSegments arrived
  | fuel + 1, arrived =>
    let shorter := withoutTrailing arrived
    if (ofSegments arrived).isEmpty && !(ofSegments shorter).isEmpty then
      follow fuel (segments shorter)
    else ofSegments arrived

/-- What stands where the given components lead. Every path that is led on to is
shorter, so the length of the first one is fuel enough. -/
def locate (components : List Text) : Resource :=
  let arrived := segments components
  follow (Text.join ['/'] arrived).length arrived

end Resource

/-- Why no endpoint answers. -/
inductive RoutingFault where
  /-- Nothing stands at the path. -/
  | nothing
  /-- What stands there answers other methods only. -/
  | method
  deriving Repr, DecidableEq

/-- The endpoint of a request. -/
def Endpoint.ofRequest (request : Request) : Except RoutingFault Endpoint :=
  let resource := Resource.locate request.components
  match resource.lookup request.method with
  | some endpoint => .ok endpoint
  | none => .error (if resource.isEmpty then .nothing else .method)

example : Resource.locate (Request.remove []).components = [(.get, .list), (.delete, .clear)] ∧
    Resource.locate (Request.remove "a/b".toList).components = [] := by decide +kernel

end ArtifactSearch.Service
