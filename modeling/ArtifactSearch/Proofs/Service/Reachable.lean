import ArtifactSearch.Proofs.Load
import ArtifactSearch.Proofs.Store.Revision
import ArtifactSearch.Service.Basic

/-!
# ArtifactSearch.Proofs.Service.Reachable

**Whatever the service does to its store is a history of changes.** A form whose
files all have a text is a change for each of them (`upload_of_texts`), any other form
is none (`upload_of_no_texts`), and every other endpoint makes one change or none.
So starting with an inbox (`exists_changes_start`), answering one request
(`exists_changes_step`) and answering any number of them (`exists_changes_run`) are
histories. The stores a service can have are therefore stores like any other, and
what holds of those holds of them (`Reachable.toStore`).
-/

namespace ArtifactSearch.Service

/-! ### Forms -/

/-- The reports of files with their texts and the keys they went under. -/
def reports (texts : List (Text × Text)) (keys : List Text) : List UploadedFile :=
  List.zipWith (fun text key => ⟨text.1, key, (Table.parse text.2).records.length⟩) texts keys

variable {parts : List FormPart} {files : List (Text × Bytes)} {texts : List (Text × Text)}

theorem ingestAll_eq {store : Store} (h : store.indexes.WellFormed) (texts : List (Text × Text)) :
    ∃ keys, store.Placed texts keys ∧
      ingestAll store texts = (reports texts keys, store.applyAll (Store.intake texts)) := by
  induction texts generalizing store with
  | nil => exact ⟨[], .nil store, rfl⟩
  | cons text rest ih =>
      obtain ⟨fileName, content⟩ := text
      obtain ⟨keys, hplaced, hrest⟩ := ih (Store.wellFormed_ingest h fileName content)
      refine ⟨_, hplaced.ingest h, ?_⟩
      rw [ingestAll]
      dsimp only
      rw [hrest, Store.rowCount_keyFor_ingest h]
      rfl

/-- A new store that takes in files is not as it was: the first one moves its revision. -/
theorem applyAll_intake_ne (hne : texts ≠ []) :
    Store.initial.applyAll (Store.intake texts) ≠ Store.initial := by
  obtain ⟨⟨fileName, content⟩, rest, rfl⟩ := List.exists_cons_of_ne_nil hne
  have hinitial : Store.initial.indexes.WellFormed := IndexMap.wellFormed_nil
  have hfirst : (Store.initial.ingest fileName content).revision = 1 := rfl
  have hrest := Store.revision_le_applyAll (Store.wellFormed_ingest hinitial fileName content)
    (Store.intake rest)
  intro hsame
  have hlast :
      ((Store.initial.ingest fileName content).applyAll (Store.intake rest)).revision = 0 :=
    congrArg Store.revision hsame
  omega

theorem status?_refusal_ne (refusal : Refusal) :
    (Reply.refusal refusal).status? ≠ some answerStatus := by
  cases refusal with
  | unanswered fault => cases fault <;> simp [Reply.status?, Refusal.status, answerStatus]
  | _ => simp [Reply.status?, Refusal.status, answerStatus]

/-- A file is refused or fails; it does not lead to an answer. -/
theorem status?_of_decodeFile {file : Text × Bytes} {reply : Reply}
    (h : decodeFile file = .error reply) : reply.status? ≠ some answerStatus := by
  unfold decodeFile at h
  split at h
  · cases h
    decide
  · cases hdecode : Content.decode file.1 file.2 with
    | ok text =>
        rw [hdecode] at h
        cases h
    | error error =>
        rw [hdecode] at h
        cases h
        cases error with
        | rejected fileName cause => exact status?_refusal_ne _
        | corrupt fault => exact nofun
        | unknownEncoding name => exact nofun

theorem upload_of_texts {store : Store} (h : store.indexes.WellFormed)
    (hfiles : filesOf parts = .ok files) (htexts : decodeAll files = .ok texts) :
    ∃ keys, store.Placed texts keys ∧
      upload store parts =
        (.answer (.uploaded (reports texts keys)), store.applyAll (Store.intake texts)) := by
  obtain ⟨keys, hplaced, hingest⟩ := ingestAll_eq h texts
  refine ⟨keys, hplaced, ?_⟩
  rw [upload, hfiles]
  dsimp only
  rw [ingestFiles, htexts]
  dsimp only
  rw [hingest]

/-- A form that is not all files with a text changes nothing, whatever it fails at. -/
theorem upload_of_no_texts (parts : List FormPart) (store : Store)
    (h : ∀ files texts, filesOf parts = .ok files → decodeAll files ≠ .ok texts) :
    ∃ reply, upload store parts = (reply, store) ∧ reply.status? ≠ some answerStatus := by
  cases hfiles : filesOf parts with
  | error invalid =>
      refine ⟨.refusal (.invalid invalid), ?_, status?_refusal_ne _⟩
      rw [upload, hfiles]
  | ok files =>
      cases htexts : decodeAll files with
      | ok texts => exact absurd htexts (h files texts hfiles)
      | error reply =>
          obtain ⟨file, -, hfile⟩ := exists_error_of_mapM htexts
          refine ⟨reply, ?_, status?_of_decodeFile hfile⟩
          rw [upload, hfiles]
          dsimp only
          rw [ingestFiles, htexts]

/-! ### One request -/

theorem exists_changes_upload {store : Store} (h : store.indexes.WellFormed)
    (parts : List FormPart) : ∃ changes, (upload store parts).2 = store.applyAll changes := by
  by_cases htexts : ∃ files texts, filesOf parts = .ok files ∧ decodeAll files = .ok texts
  · obtain ⟨files, texts, hfiles, htexts⟩ := htexts
    obtain ⟨keys, -, hupload⟩ := upload_of_texts h hfiles htexts
    exact ⟨Store.intake texts, by rw [hupload]⟩
  · obtain ⟨reply, hupload, -⟩ := upload_of_no_texts parts store
      fun files texts hfiles hdecode => htexts ⟨files, texts, hfiles, hdecode⟩
    exact ⟨[], by rw [hupload]; rfl⟩

theorem exists_changes_change (store : Store) (asked : Except Invalid Store.Change) :
    ∃ changes, (change store asked).2 = store.applyAll changes := by
  cases asked with
  | ok asked => exact ⟨[asked], rfl⟩
  | error invalid => exact ⟨[], rfl⟩

theorem exists_changes_serve {store : Store} (h : store.indexes.WellFormed) (stamp : Text)
    (request : Request) (endpoint : Endpoint) :
    ∃ changes, (serve stamp store request endpoint).2 = store.applyAll changes := by
  cases endpoint with
  | upload => exact exists_changes_upload h _
  | remove name => exact ⟨[.remove name], rfl⟩
  | clear => exact ⟨[.clear], rfl⟩
  | setQuery => exact exists_changes_change store _
  | setPage => exact exists_changes_change store _
  | health | list | profiles | results | document => exact ⟨[], rfl⟩

theorem step_of_endpoint (stamp : Text) (store : Store) {request : Request} {endpoint : Endpoint}
    (h : Endpoint.ofRequest request = .ok endpoint) (hbody : request.bodyFault? endpoint = none) :
    step stamp (some store) request =
      ((serve stamp store request endpoint).1, some (serve stamp store request endpoint).2) := by
  unfold step
  rw [h]
  dsimp only
  rw [hbody]

theorem step_of_bodyFault (stamp : Text) (state : Option Store) {request : Request}
    {endpoint : Endpoint} {fault : BodyFault} (h : Endpoint.ofRequest request = .ok endpoint)
    (hbody : request.bodyFault? endpoint = some fault) :
    step stamp state request = (.refusal (.unreadable fault), state) := by
  unfold step
  rw [h]
  dsimp only
  rw [hbody]

theorem step_of_fault (stamp : Text) (state : Option Store) {request : Request}
    {fault : RoutingFault} (h : Endpoint.ofRequest request = .error fault) :
    step stamp state request = (.refusal (.unanswered fault), state) := by
  unfold step
  rw [h]

theorem exists_changes_step {store : Store} (h : store.indexes.WellFormed) (stamp : Text)
    (request : Request) :
    ∃ changes, (step stamp (some store) request).2 = some (store.applyAll changes) := by
  cases hendpoint : Endpoint.ofRequest request with
  | error fault => exact ⟨[], by rw [step_of_fault stamp _ hendpoint]; rfl⟩
  | ok endpoint =>
      cases hbody : request.bodyFault? endpoint with
      | some fault => exact ⟨[], by rw [step_of_bodyFault stamp _ hendpoint hbody]; rfl⟩
      | none =>
          obtain ⟨changes, hserve⟩ := exists_changes_serve h stamp request endpoint
          refine ⟨changes, ?_⟩
          rw [step_of_endpoint stamp store hendpoint hbody, hserve]

/-! ### Every sequence of requests -/

theorem exists_changes_run {store : Store} (h : store.indexes.WellFormed) (calls : List Call) :
    ∃ changes, (run (some store) calls).2 = some (store.applyAll changes) := by
  induction calls generalizing store with
  | nil => exact ⟨[], rfl⟩
  | cons call rest ih =>
      obtain ⟨changes, hstep⟩ := exists_changes_step h call.stamp call.request
      obtain ⟨later, hrest⟩ := ih (Store.wellFormed_applyAll h changes)
      refine ⟨changes ++ later, ?_⟩
      rw [Store.applyAll_append, ← hrest, run, ← hstep]

/-- A service starts exactly if its inbox is there, or can be made, and is loaded to the end;
then it has the store that this came to. -/
theorem start_eq_ok_iff {tree : FileTree} {inbox : Path} {store : Store} :
    (start tree inbox).store = .ok store ↔
      ∃ next, tree.ensureFolders inbox (inbox.names.length + 1) = (next, none) ∧
        (Load.paths next Store.initial [inbox]).2 = none ∧
        (Load.paths next Store.initial [inbox]).1.store = store := by
  unfold start Load.inbox
  cases tree.ensureFolders inbox (inbox.names.length + 1) with
  | mk next fault? =>
      cases fault? with
      | some fault => simp
      | none =>
          dsimp only
          cases hload : Load.paths next Store.initial [inbox] with
          | mk progress error? => cases error? <;> simp [hload]

theorem exists_changes_start {tree : FileTree} {inbox : Path} {store : Store}
    (h : (start tree inbox).store = .ok store) :
    ∃ changes, store = Store.initial.applyAll changes := by
  obtain ⟨next, -, hload, hstore⟩ := start_eq_ok_iff.mp h
  exact ⟨_, hstore.symm.trans (Load.complete_of_paths IndexMap.wellFormed_nil hload).taken⟩

/-- The stores that a service has once it has started with some inbox and answered
some requests. -/
def Reachable (store : Store) : Prop :=
  ∃ tree inbox first calls, (start tree inbox).store = .ok first ∧
    (run (some first) calls).2 = some store

/-- A service with an empty inbox starts with an empty store, and may come from there to
wherever requests lead. -/
theorem reachable_of_run {calls : List Call} {store : Store}
    (h : (run (some Store.initial) calls).2 = some store) : Reachable store := by
  let tree : FileTree := ⟨[(["inbox".toList], .folder)], []⟩
  exact ⟨tree, .relative ["inbox".toList], Store.initial, calls, by decide +kernel, h⟩

theorem reachable_initial : Reachable Store.initial :=
  reachable_of_run (show (run (some Store.initial) []).2 = some Store.initial from rfl)

theorem Reachable.exists_changes {store : Store} (h : Reachable store) :
    ∃ changes, store = Store.initial.applyAll changes := by
  obtain ⟨tree, inbox, first, calls, hstart, hrun⟩ := h
  have hinitial : Store.initial.indexes.WellFormed := IndexMap.wellFormed_nil
  obtain ⟨before, rfl⟩ := exists_changes_start hstart
  obtain ⟨later, hlater⟩ :=
    exists_changes_run (Store.wellFormed_applyAll hinitial before) calls
  refine ⟨before ++ later, ?_⟩
  rw [Store.applyAll_append]
  exact Option.some.inj (hrun.symm.trans hlater)

theorem Reachable.toStore {store : Store} (h : Reachable store) : store.Reachable :=
  ⟨Store.defaultPageSize, h.exists_changes⟩

theorem Reachable.wellFormed {store : Store} (h : Reachable store) : store.indexes.WellFormed :=
  h.toStore.wellFormed

end ArtifactSearch.Service
