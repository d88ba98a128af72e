import ArtifactSearch.Proofs.Text.Alphanumeric
import ArtifactSearch.Proofs.Text.Split
import ArtifactSearch.Service.Endpoint
import Mathlib.Data.List.Basic

/-!
# ArtifactSearch.Proofs.Service.Routing

**Which requests arrive where.** A component without dots of its own, slashes and
percent signs is `Plain`: resolving, decoding and splitting leave it as it is. A path of
plain components that something stands at is therefore answered right there
(`locate_of_plain`), and so are the requests about an index whose name has letters and
digits, and at least one of them.
-/

namespace ArtifactSearch.Service

namespace Resource

/-- A component that arrives as one segment, unchanged. -/
structure Plain (component : Text) : Prop where
  /-- It does not stand for a place of the path. -/
  undotted : component ≠ ['.'] ∧ component ≠ ['.', '.']
  /-- It is one segment. -/
  whole : '/' ∉ component
  /-- Nothing in it is decoded. -/
  literal : '%' ∉ component

instance (component : Text) : Decidable (Plain component) :=
  decidable_of_iff
    ((component ≠ ['.'] ∧ component ≠ ['.', '.']) ∧ '/' ∉ component ∧ '%' ∉ component)
    ⟨fun h => ⟨h.1, h.2.1, h.2.2⟩, fun h => ⟨h.undotted, h.whole, h.literal⟩⟩

theorem plain_of_alphanumeric {s : Text} (h : ∀ c ∈ s, Text.isAlphanumeric c = true) : Plain s := by
  have hnot : ∀ c, Text.isAlphanumeric c = false → c ∉ s := fun c hc hmem => by
    rw [h c hmem] at hc
    cases hc
  have hdot : '.' ∉ s := hnot '.' (by decide)
  refine ⟨⟨?_, ?_⟩, hnot '/' (by decide), hnot '%' (by decide)⟩
  · rintro rfl
    exact hdot (by simp)
  · rintro rfl
    exact hdot (by simp)

variable {components : List Text}

theorem resolve_of_plain (h : ∀ component ∈ components, Plain component) :
    resolve components = components := by
  -- The components passed so far stand before those that come.
  suffices hfold : ∀ before : List Text, components.foldl
      (fun before component =>
        if component = ['.'] then before
        else if component = ['.', '.'] then before.dropLast
        else before ++ [component])
      before = before ++ components from hfold []
  induction components with
  | nil => exact fun before => (List.append_nil before).symm
  | cons component rest ih =>
      intro before
      obtain ⟨hdot, hdots⟩ := (h component (by simp)).undotted
      have hrest := ih (fun next hnext => h next (List.mem_cons_of_mem _ hnext))
      rw [List.foldl_cons, if_neg hdot, if_neg hdots, hrest, List.append_assoc,
        List.singleton_append]

theorem segments_of_plain (h : ∀ component ∈ components, Plain component) :
    segments components = components := by
  have harrive : ∀ component ∈ components,
      Text.split '/' (Percent.decode component) = [component] := fun component hmem => by
    rw [Percent.decode_eq_self (h component hmem).literal,
      Text.split_of_not_mem (h component hmem).whole]
  rw [segments, resolve_of_plain h, List.flatMap_congr harrive]
  simp

theorem follow_of_found (fuel : Nat) {arrived : List Text} (h : ofSegments arrived ≠ []) :
    follow fuel arrived = ofSegments arrived := by
  cases fuel with
  | zero => rfl
  | succ fuel =>
      rw [follow, if_neg (by simp [h])]

theorem locate_of_plain (h : ∀ component ∈ components, Plain component)
    (hfound : ofSegments components ≠ []) : locate components = ofSegments components := by
  rw [locate, segments_of_plain h]
  exact follow_of_found _ hfound

end Resource

namespace Endpoint

theorem ofRequest_of_plain {request : Request} {resource : Resource} {endpoint : Endpoint}
    (h : ∀ component ∈ request.components, Resource.Plain component)
    (hresource : Resource.ofSegments request.components = resource)
    (hmethod : resource.lookup request.method = some endpoint) :
    ofRequest request = .ok endpoint := by
  have hfound : Resource.ofSegments request.components ≠ [] := by
    intro hnil
    rw [← hresource, hnil] at hmethod
    cases hmethod
  rw [ofRequest, Resource.locate_of_plain h hfound, hresource, hmethod]

theorem ofRequest_list : ofRequest Request.list = .ok .list := by decide +kernel

/-- Where a request arrives is told by its method and its path alone. -/
theorem ofRequest_eq_plain (request : Request) :
    ofRequest request = ofRequest (.plain request.method request.components) := rfl

theorem ofRequest_upload (files : List (Text × Bytes)) :
    ofRequest (Request.upload files) = .ok .upload :=
  (ofRequest_eq_plain _).trans
    (show ofRequest (.plain .post (Request.api ["upload".toList])) = _ by decide +kernel)

theorem ofRequest_setQuery (body : Body) : ofRequest (Request.setQuery body) = .ok .setQuery :=
  (ofRequest_eq_plain _).trans
    (show ofRequest (.plain .post (Request.api ["query".toList])) = _ by decide +kernel)

/-! ### Requests about an index -/

variable {name : Text}

theorem plain_of_mem_index {further : List Text} (h : ∀ c ∈ name, Text.isAlphanumeric c = true)
    (hfurther : ∀ component ∈ further, Resource.Plain component) :
    ∀ component ∈ Request.api ("indexes".toList :: name :: further), Resource.Plain component := by
  simp only [Request.api, List.forall_mem_cons]
  exact ⟨by decide, by decide, Resource.plain_of_alphanumeric h, hfurther⟩

theorem ofRequest_remove (hne : name ≠ []) (h : ∀ c ∈ name, Text.isAlphanumeric c = true) :
    ofRequest (Request.remove name) = .ok (.remove name) := by
  have hresource : Resource.ofSegments (Request.remove name).components
      = [(.delete, .remove name)] := by
    simp [Request.remove, Request.plain, Request.api, Resource.ofSegments, hne]
  exact ofRequest_of_plain (plain_of_mem_index h nofun) hresource rfl

theorem ofRequest_profiles (hne : name ≠ []) (h : ∀ c ∈ name, Text.isAlphanumeric c = true) :
    ofRequest (Request.profiles name) = .ok (.profiles name) := by
  have hresource : Resource.ofSegments (Request.profiles name).components
      = [(.get, .profiles name)] := by
    simp [Request.profiles, Request.plain, Request.api, Resource.ofSegments, hne]
  exact ofRequest_of_plain (plain_of_mem_index h (by decide)) hresource rfl

/-- Without a name there is no index to ask about. -/
theorem ofRequest_profiles_nil : ofRequest (Request.profiles []) = .error .nothing := by
  decide +kernel

/-- Without a name, removing leads on to removing everything. -/
theorem ofRequest_remove_nil : ofRequest (Request.remove []) = .ok .clear := by
  decide +kernel

end Endpoint

end ArtifactSearch.Service
