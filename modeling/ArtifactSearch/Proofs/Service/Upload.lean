import ArtifactSearch.Proofs.Service.Reachable
import ArtifactSearch.Proofs.Service.Routing

/-!
# ArtifactSearch.Proofs.Service.Upload

**An upload is taken in as a whole or not at all.** A form of files is read to its end
exactly if they are not too many (`ofForm?_form`). `Arrives` says of one file that it
comes with a name and a text, and `decodeAll_filesOf_iff` that a form is decoded
exactly if all its files do. What follows for the store is said by `upload_of_texts`
and `upload_of_no_texts`: taking the texts in cannot fail any more, and nothing is
taken in before.
-/

namespace ArtifactSearch.Service

/-- A file that is sent arrives under a name, and has a text there. -/
def Arrives (file : Text × Bytes) (text : Text × Text) : Prop :=
  file.1 ≠ [] ∧ FormPart.arrived file.1 ≠ [] ∧
    Content.HasText (FormPart.arrived file.1) file.2 text.1 text.2

/-! ### Forms of files -/

variable {files received : List (Text × Bytes)} {texts : List (Text × Text)}

/-- The form with files of the given names, as it arrives. -/
def form (files : List (Text × Bytes)) : List FormPart :=
  files.map fun file => .file file.1 file.2

theorem filesOf_form (hne : files ≠ []) : filesOf (form files) = .ok files := by
  unfold filesOf form
  dsimp only
  rw [if_neg (by simpa using hne), if_pos, List.filterMap_map]
  · simp
  · -- No part is out of place.
    rw [List.isEmpty_iff, List.filterMap_eq_nil_iff]
    rintro ⟨part, position⟩ hmem
    obtain ⟨file, -, rfl⟩ := List.mem_map.mp (List.fst_mem_of_mem_zipIdx hmem)
    rfl

/-- Files that have names travel as a form of files. -/
theorem map_ofFile (h : ∀ file ∈ files, file.1 ≠ []) :
    files.map FormPart.ofFile = form (files.map fun file => (FormPart.arrived file.1, file.2)) := by
  rw [form, List.map_map]
  exact List.map_congr_left fun file hfile => if_neg (by simpa using h file hfile)

theorem filesOf_of_named (hne : files ≠ []) (h : ∀ file ∈ files, file.1 ≠ []) :
    filesOf (files.map FormPart.ofFile)
      = .ok (files.map fun file => (FormPart.arrived file.1, file.2)) := by
  rw [map_ofFile h, filesOf_form (by simpa using hne)]

theorem first?_form (most fields : Nat) (files : List (Text × Bytes)) :
    FormFault.first? most fields (form files)
      = if most < files.length then some .manyFiles else none := by
  induction files generalizing most with
  | nil => cases most <;> rfl
  | cons file rest ih =>
      cases most with
      | zero => exact (if_pos (Nat.succ_pos _)).symm
      | succ most =>
          simp only [List.length_cons, Nat.succ_lt_succ_iff]
          exact ih most

/-- A form of files has a fault only if they are too many. -/
theorem ofForm?_form (files : List (Text × Bytes)) :
    FormFault.ofForm? (form files)
      = if FormFault.maxFiles < files.length then some .manyFiles else none :=
  first?_form _ _ files

theorem filesOf_of_nameless {file : Text × Bytes} (hfile : file ∈ files) (h : file.1 = []) :
    filesOf (files.map FormPart.ofFile) ≠ .ok received := by
  have hplain : FormPart.plain file.2.length ∈ files.map FormPart.ofFile :=
    List.mem_map.mpr ⟨file, hfile, by rw [FormPart.ofFile, h]; rfl⟩
  obtain ⟨position, hposition⟩ := List.mem_iff_getElem?.mp hplain
  unfold filesOf
  dsimp only
  rw [if_neg (by simpa using List.ne_nil_of_mem hfile), if_neg]
  · exact nofun
  · rw [List.isEmpty_iff, List.filterMap_eq_nil_iff]
    intro hall
    cases hall (.plain _, position) (List.mem_zipIdx_iff_getElem?.mpr hposition)

theorem decodeFile_eq_ok_iff {file : Text × Bytes} {text : Text × Text} :
    decodeFile file = .ok text ↔ file.1 ≠ [] ∧ Content.HasText file.1 file.2 text.1 text.2 := by
  rw [← Content.decode_eq_ok_iff]
  unfold decodeFile
  by_cases hname : file.1 = []
  · rw [if_pos (by simpa using hname)]
    exact iff_of_false nofun fun h => h.1 hname
  · rw [if_neg (by simpa using hname)]
    cases Content.decode file.1 file.2 with
    | ok decoded => simp [Except.mapError, hname]
    | error error => exact iff_of_false nofun nofun

theorem decodeAll_eq_ok_iff :
    decodeAll files = .ok texts ↔
      List.Forall₂ (fun file text => file.1 ≠ [] ∧ Content.HasText file.1 file.2 text.1 text.2)
        files texts := by
  rw [decodeAll, mapM_eq_ok_iff]
  simp only [decodeFile_eq_ok_iff]

/-- A form is decoded to texts exactly if they are those of its files. -/
theorem decodeAll_filesOf_iff (hne : files ≠ []) :
    (∃ received, filesOf (files.map FormPart.ofFile) = .ok received ∧
      decodeAll received = .ok texts) ↔ List.Forall₂ Arrives files texts := by
  constructor
  · rintro ⟨received, hreceived, htexts⟩
    have hnamed : ∀ file ∈ files, file.1 ≠ [] := fun file hfile hname =>
      filesOf_of_nameless hfile hname hreceived
    rw [filesOf_of_named hne hnamed] at hreceived
    cases hreceived
    rw [decodeAll_eq_ok_iff, List.forall₂_map_left_iff] at htexts
    exact (List.forall₂_and_left _ _).mpr ⟨hnamed, htexts⟩
  · intro h
    obtain ⟨hnamed, harrived⟩ := (List.forall₂_and_left _ _).mp h
    refine ⟨_, filesOf_of_named hne hnamed, ?_⟩
    rwa [decodeAll_eq_ok_iff, List.forall₂_map_left_iff]

/-! ### The request -/

theorem step_upload (stamp : Text) (store : Store)
    (hread : FormFault.ofForm? (files.map FormPart.ofFile) = none) :
    step stamp (some store) (Request.upload files) =
      ((upload store (files.map FormPart.ofFile)).1,
        some (upload store (files.map FormPart.ofFile)).2) :=
  step_of_endpoint stamp store (Endpoint.ofRequest_upload files)
    (show (FormFault.ofForm? (files.map FormPart.ofFile)).map BodyFault.form = none by
      rw [hread]; rfl)

theorem step_upload_of_fault (stamp : Text) (state : Option Store) {fault : FormFault}
    (hfault : FormFault.ofForm? (files.map FormPart.ofFile) = some fault) :
    step stamp state (Request.upload files) = (.refusal (.unreadable (.form fault)), state) :=
  step_of_bodyFault stamp state (Endpoint.ofRequest_upload files)
    (show (FormFault.ofForm? (files.map FormPart.ofFile)).map BodyFault.form = _ by
      rw [hfault]; rfl)

theorem ofForm?_of_named (h : ∀ file ∈ files, file.1 ≠ []) :
    FormFault.ofForm? (files.map FormPart.ofFile)
      = if FormFault.maxFiles < files.length then some .manyFiles else none := by
  rw [map_ofFile h, ofForm?_form, List.length_map]

/-- **Uploads are all or nothing.** Whatever the service has done before, files that
all arrive with a text are answered with success if there are at most a thousand of
them: the store is as after taking in the texts one after another, and the answer lists
for each file its name, the key where it stands right after it was taken in, and its
number of rows. If only one file does not, wherever it stands and whatever it fails at,
or if they are more, there is no success, and the store with its query, page and
revision is as before. More files with names are refused for their number, whatever is
in them. -/
theorem upload_all_or_nothing {store : Store} (h : Reachable store) (stamp : Text)
    {files : List (Text × Bytes)} (hne : files ≠ []) :
    let outcome := step stamp (some store) (Request.upload files)
    (files.length ≤ FormFault.maxFiles → ∀ texts, List.Forall₂ Arrives files texts →
      ∃ keys, store.Placed texts keys ∧
        outcome = (.answer (.uploaded (reports texts keys)),
          some (store.applyAll (Store.intake texts))) ∧
        outcome.1.status? = some 200) ∧
    (FormFault.maxFiles < files.length ∨ (¬ ∃ texts, List.Forall₂ Arrives files texts) →
      outcome.2 = some store ∧ outcome.1.status? ≠ some 200) ∧
    (FormFault.maxFiles < files.length → (∀ file ∈ files, file.1 ≠ []) →
      outcome.1 = .refusal (.unreadable (.form .manyFiles)) ∧ outcome.1.status? = some 400) := by
  intro outcome
  refine ⟨fun hshort texts harrive => ?_, fun hnone => ?_, fun hlong hnamed => ?_⟩
  · have hnamed := ((List.forall₂_and_left _ _).mp harrive).1
    have houtcome : outcome = _ := step_upload stamp store
      ((ofForm?_of_named hnamed).trans (if_neg (Nat.not_lt.mpr hshort)))
    obtain ⟨received, hreceived, htexts⟩ := (decodeAll_filesOf_iff hne).mpr harrive
    obtain ⟨keys, hplaced, hupload⟩ := upload_of_texts h.wellFormed hreceived htexts
    rw [hupload] at houtcome
    exact ⟨keys, hplaced, houtcome, by rw [houtcome]; rfl⟩
  · cases hfault : FormFault.ofForm? (files.map FormPart.ofFile) with
    | some fault =>
        have houtcome : outcome = _ := step_upload_of_fault stamp (some store) hfault
        rw [houtcome]
        exact ⟨rfl, status?_refusal_ne _⟩
    | none =>
        have hfew : ¬ ∃ texts, List.Forall₂ Arrives files texts := by
          refine hnone.elim (fun hlong => ?_) id
          -- All of them would have names, and so be too many for a form.
          rintro ⟨texts, harrive⟩
          rw [ofForm?_of_named ((List.forall₂_and_left _ _).mp harrive).1, if_pos hlong] at hfault
          cases hfault
        have houtcome : outcome = _ := step_upload stamp store hfault
        obtain ⟨reply, hupload, hstatus⟩ :=
          upload_of_no_texts (files.map FormPart.ofFile) store
            fun received texts hreceived htexts =>
              hfew ⟨texts, (decodeAll_filesOf_iff hne).mp ⟨received, hreceived, htexts⟩⟩
        rw [hupload] at houtcome
        rw [houtcome]
        exact ⟨rfl, hstatus⟩
  · have houtcome : outcome = _ := step_upload_of_fault stamp (some store)
      ((ofForm?_of_named hnamed).trans (if_pos hlong))
    rw [houtcome]
    exact ⟨rfl, rfl⟩

/-- Two files for one index, and the same with a third one that is no text. -/
theorem upload_all_or_nothing_twice :
    let files := [("a.csv".toList, [0x78, 0x0A, 0x31]), ("A.CSV".toList, [0x78])]
    let texts := [("a.csv".toList, "x\n1".toList), ("A.CSV".toList, "x".toList)]
    let spoilt := files ++ [("b.csv".toList, [0x78, 0])]
    Reachable Store.initial ∧ files ≠ [] ∧ spoilt ≠ [] ∧
      (∃ keys, Store.initial.Placed texts keys ∧
        step [] (some Store.initial) (Request.upload files)
          = (.answer (.uploaded (reports texts keys)),
            some (Store.initial.applyAll (Store.intake texts)))) ∧
      (step [] (some Store.initial) (Request.upload spoilt)).2 = some Store.initial := by
  intro files texts spoilt
  have hfiles : files ≠ [] := by decide
  have hspoilt : spoilt ≠ [] := by decide
  have harrive : List.Forall₂ Arrives files texts := by
    refine .cons ⟨by decide, by decide, Content.decode_eq_ok_iff.mp (by decide +kernel)⟩
      (.cons ⟨by decide, by decide, Content.decode_eq_ok_iff.mp (by decide +kernel)⟩ .nil)
  have hnone : ¬ ∃ texts, List.Forall₂ Arrives spoilt texts := by
    rintro ⟨_, harrive⟩
    obtain ⟨text, _, ⟨-, -, htext⟩, -, -⟩ :=
      List.forall₂_cons_left_iff.mp (List.forall₂_drop 2 harrive)
    have hrejected : Content.decode (FormPart.arrived "b.csv".toList) [0x78, 0]
        = .error (.rejected "b.csv".toList .binary) := by decide +kernel
    cases hrejected.symm.trans (Content.decode_eq_ok_iff.mpr htext)
  refine ⟨reachable_initial, hfiles, hspoilt, ?_, ?_⟩
  · obtain ⟨keys, hplaced, houtcome, -⟩ :=
      (upload_all_or_nothing reachable_initial [] hfiles).1 (by decide) texts harrive
    exact ⟨keys, hplaced, houtcome⟩
  · exact ((upload_all_or_nothing reachable_initial [] hspoilt).2.1 (.inr hnone)).1

/-- One file more than a form may have: each arrives with a text, but none is taken in. -/
theorem upload_refused_for_many :
    let file : Text × Bytes := ("a.csv".toList, [])
    let text : Text × Text := ("a.csv".toList, [])
    let outcome := step [] (some Store.initial) (Request.upload (List.replicate 1001 file))
    Reachable Store.initial ∧
      List.Forall₂ Arrives (List.replicate 1001 file) (List.replicate 1001 text) ∧
      outcome.1.status? = some 400 ∧ outcome.2 = some Store.initial ∧
      outcome.2 ≠ some (Store.initial.applyAll (Store.intake (List.replicate 1001 text))) := by
  intro file text outcome
  have harrives : Arrives file text :=
    ⟨by decide, by decide, Content.decode_eq_ok_iff.mp (by decide +kernel)⟩
  have hall : ∀ n, List.Forall₂ Arrives (List.replicate n file) (List.replicate n text) := by
    intro n
    induction n with
    | zero => exact .nil
    | succ n ih => exact .cons harrives ih
  have hnamed : ∀ sent ∈ List.replicate 1001 file, sent.1 ≠ [] :=
    ((List.forall₂_and_left _ _).mp (hall 1001)).1
  have hlong : FormFault.maxFiles < (List.replicate 1001 file).length := by
    rw [List.length_replicate]
    decide
  have houtcome : outcome = _ := step_upload_of_fault [] (some Store.initial)
    ((ofForm?_of_named hnamed).trans (if_pos hlong))
  rw [houtcome]
  have hsome : List.replicate 1001 text ≠ [] := List.cons_ne_nil text (List.replicate 1000 text)
  exact ⟨reachable_initial, hall 1001, rfl, rfl, fun hsame =>
    applyAll_intake_ne hsome (Option.some.inj hsame).symm⟩

end ArtifactSearch.Service
