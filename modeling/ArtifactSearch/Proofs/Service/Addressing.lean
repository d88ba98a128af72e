import ArtifactSearch.Proofs.Query.Scope
import ArtifactSearch.Proofs.Service.Reachable
import ArtifactSearch.Proofs.Service.Routing

/-!
# ArtifactSearch.Proofs.Service.Addressing

**Which of the listed indexes can be addressed by their names.** Names are letters and
digits, so they go through a path unchanged (`ofRequest_remove`) and are one word of a
query (`read_keyword_append`), and no two of them are the same index to a query
(`hits_within`). All of this needs a name that is there. A file whose name has no letter
or digit goes under the empty name, which is listed like any other, but a path without
it leads elsewhere (`not_addressable_of_nameless`).
-/

namespace ArtifactSearch.Service

variable {stamp : Text} {store : Store} {index : Index}

/-- What a listed index promises: its profiles are shown, a query for its name has
exactly its records, and it can be removed while everything else stays. -/
structure Addressable (stamp : Text) (store : Store) (index : Index) : Prop where
  /-- Its profiles are the answer to a request for them. -/
  profiles : step stamp (some store) (Request.profiles index.name) =
    (.answer (.profiles index.name
      (Profile.ofRecords Profile.defaultLimit index.columns index.records)), some store)
  /-- Its records are the results once the query names it. -/
  query : ∃ queried,
    step stamp (some store) (Request.setQuery
      (.object [("query".toList, .text ("index=".toList ++ index.name))]))
        = (cursor queried, some queried) ∧
    queried.results = index.records.map fun record => ⟨index.name, record⟩
  /-- It alone is gone once it is removed, and the revision has moved by one. -/
  remove : ∃ before after, store.indexes = before ++ (index.name, index) :: after ∧
    step stamp (some store) (Request.remove index.name) =
      (.answer (.removed index.name true),
        some { store with indexes := before ++ after, revision := store.revision + 1 })

theorem step_profiles (h : store.indexes.WellFormed) (hindex : index ∈ store.indexes.values)
    (hname : Endpoint.ofRequest (Request.profiles index.name) = .ok (.profiles index.name)) :
    step stamp (some store) (Request.profiles index.name) =
      (.answer (.profiles index.name
        (Profile.ofRecords Profile.defaultLimit index.columns index.records)), some store) := by
  rw [step_of_endpoint stamp store hname rfl, serve, profiles, Entries.contains, h.get?_name hindex,
    Store.profiles_name h hindex]
  rfl

theorem step_query (h : store.indexes.WellFormed) (hindex : index ∈ store.indexes.values)
    (hread : Query.read ("index=".toList ++ index.name) = .within (Text.lower index.name) []) :
    ∃ queried,
      step stamp (some store) (Request.setQuery
        (.object [("query".toList, .text ("index=".toList ++ index.name))]))
          = (cursor queried, some queried) ∧
      queried.results = index.records.map fun record => ⟨index.name, record⟩ := by
  refine ⟨store.setQuery ("index=".toList ++ index.name), ?_, ?_⟩
  · rw [step_of_endpoint stamp store (Endpoint.ofRequest_setQuery _) rfl]
    rfl
  · show (Query.read ("index=".toList ++ index.name)).hits store.indexes.values = _
    rw [hread, Query.hits_within h hindex]

theorem step_remove (h : store.indexes.WellFormed) (hindex : index ∈ store.indexes.values)
    (hname : Endpoint.ofRequest (Request.remove index.name) = .ok (.remove index.name)) :
    ∃ before after, store.indexes = before ++ (index.name, index) :: after ∧
      step stamp (some store) (Request.remove index.name) =
        (.answer (.removed index.name true),
          some { store with indexes := before ++ after, revision := store.revision + 1 }) := by
  obtain ⟨before, after, hsplit, hothers⟩ := h.exists_split hindex
  have hloaded : store.indexes.contains index.name = true := by
    rw [Entries.contains, h.get?_name hindex, Option.isSome_some]
  have herase : store.indexes.erase index.name = before ++ after := by
    rw [hsplit, Entries.erase_append_cons fun hmem => hothers _ hmem rfl]
  refine ⟨before, after, hsplit, ?_⟩
  rw [step_of_endpoint stamp store hname rfl, serve, Store.remove, if_pos hloaded, hloaded, herase]

/-! ### The empty name -/

theorem step_profiles_nil (stamp : Text) (state : Option Store) :
    step stamp state (Request.profiles []) = (.refusal (.unanswered .nothing), state) :=
  step_of_fault stamp state Endpoint.ofRequest_profiles_nil

theorem step_remove_nil (stamp : Text) (store : Store) :
    step stamp (some store) (Request.remove []) = (.answer .cleared, some store.clear) :=
  step_of_endpoint stamp store Endpoint.ofRequest_remove_nil rfl

theorem not_addressable_of_nameless (hname : index.name = []) :
    ¬ Addressable stamp store index := by
  intro h
  have hprofiles := h.profiles
  rw [hname, step_profiles_nil] at hprofiles
  cases hprofiles

/-! ### The listed indexes -/

/-- **A listed index is addressable if it has a name, and not otherwise.** A request to
remove the index without a name removes all of them, and the query with them. -/
theorem listed_index_addressable (h : Reachable store) {indexes : List Index}
    (hlist : (step stamp (some store) Request.list).1 = .answer (.list indexes))
    (hindex : index ∈ indexes) :
    (Addressable stamp store index ↔ index.name ≠ []) ∧
      (index.name = [] →
        (step stamp (some store) (Request.profiles index.name)).1.status? = some 404 ∧
        step stamp (some store) (Request.remove index.name)
          = (.answer .cleared, some store.clear)) := by
  have hwell : store.indexes.WellFormed := h.wellFormed
  rw [step_of_endpoint stamp store Endpoint.ofRequest_list rfl] at hlist
  cases hlist
  have hloaded : index.name ∈ store.indexes.keys := by
    rw [← Entries.get?_isSome, hwell.get?_name hindex, Option.isSome_some]
  -- Letters and digits are what neither a path nor a query takes apart.
  have halphanumeric := hwell.alphanumeric index.name hloaded
  refine ⟨⟨fun haddressable hname => ?_, fun hne => ?_⟩, fun hname => ?_⟩
  · exact not_addressable_of_nameless hname haddressable
  · exact {
      profiles := step_profiles hwell hindex (Endpoint.ofRequest_profiles hne halphanumeric)
      query := step_query hwell hindex (Query.read_keyword_append hne halphanumeric)
      remove := step_remove hwell hindex (Endpoint.ofRequest_remove hne halphanumeric) }
  · rw [hname, step_profiles_nil, step_remove_nil]
    exact ⟨rfl, rfl⟩

/-- The only index of a service, under the name of a known export. -/
theorem listed_index_addressable_known :
    let store := Store.initial.applyAll [.ingest "dns-cache.csv".toList "x\n1".toList]
    let index := Index.ofTable "DNSCache".toList "dns-cache.csv".toList
      (Table.parse "x\n1".toList)
    Reachable store ∧ (step [] (some store) Request.list).1 = .answer (.list [index]) ∧
      Addressable [] store index := by
  intro store index
  have hrun : (run (some Store.initial)
      [⟨[], .upload [("dns-cache.csv".toList, [0x78, 0x0A, 0x31])]⟩]).2 = some store := by
    decide +kernel
  have hlist : (step [] (some store) Request.list).1 = .answer (.list [index]) := by
    decide +kernel
  have hreachable : Reachable store := reachable_of_run hrun
  have haddressable :=
    (listed_index_addressable hreachable hlist (List.mem_singleton_self index)).1
  exact ⟨hreachable, hlist, haddressable.mpr (by decide)⟩

/-- A mark alone is no name: its index is listed beside another one, it is not found, a
query for it finds nothing, and removing it takes the other one along. -/
theorem nameless_index_not_addressable :
    let store := Store.initial.applyAll [.ingest "a.csv".toList "x\n1".toList,
      .ingest "!.csv".toList "x\n2".toList]
    let named := Index.ofTable "a".toList "a.csv".toList (Table.parse "x\n1".toList)
    let nameless := Index.ofTable [] "!.csv".toList (Table.parse "x\n2".toList)
    Reachable store ∧
      (step [] (some store) Request.list).1 = .answer (.list [named, nameless]) ∧
      ¬ Addressable [] store nameless ∧
      (store.setQuery ("index=".toList ++ nameless.name)).results = [] ∧
      (step [] (some store) (Request.remove nameless.name)).2.map Store.indexes = some [] := by
  intro store named nameless
  have hrun : (run (some Store.initial) [⟨[], .upload
      [("a.csv".toList, [0x78, 0x0A, 0x31]), ("!.csv".toList, [0x78, 0x0A, 0x32])]⟩]).2
        = some store := by
    decide +kernel
  have hremove := step_remove_nil [] store
  refine ⟨reachable_of_run hrun, by decide +kernel, not_addressable_of_nameless rfl,
    by decide +kernel, ?_⟩
  show (step [] (some store) (Request.remove [])).2.map Store.indexes = some []
  rw [hremove]
  rfl

end ArtifactSearch.Service
