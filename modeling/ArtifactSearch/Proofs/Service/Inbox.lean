import ArtifactSearch.Proofs.Files.Folder
import ArtifactSearch.Proofs.Service.Upload

/-!
# ArtifactSearch.Proofs.Service.Inbox

**It does not matter how files come to the service.** Loading an inbox goes by paths,
in the order of discovery, and would skip a file without a text; an upload goes by
names, in the order of the form, and decodes everything first. Both take in the texts
of the files one after another: the loading because every file the inbox holds is
discovered and read under its own name (`Load.paths_of_holds`), the upload because
nothing in the form is refused (`upload_form`). So the store is the same in all parts,
whatever becomes of files for one index. Only the size of a form is limited, and that of
an inbox is not.
-/

namespace ArtifactSearch

variable {files : List (Text × Bytes)} {texts : List (Text × Text)}

/-- Names and bytes are those of the given texts, one by one. -/
def Decoded (files : List (Text × Bytes)) (texts : List (Text × Text)) : Prop :=
  List.Forall₂ (fun file text => Content.HasText file.1 file.2 text.1 text.2) files texts

theorem exists_decoded (h : ∀ file ∈ files, ∃ name text, Content.HasText file.1 file.2 name text) :
    ∃ texts, Decoded files texts := by
  induction files with
  | nil => exact ⟨[], .nil⟩
  | cons file rest ih =>
      obtain ⟨⟨name, text, hfile⟩, hrest⟩ := List.forall_mem_cons.mp h
      obtain ⟨texts, htexts⟩ := ih hrest
      exact ⟨(name, text) :: texts, .cons hfile htexts⟩

/-! ### Files in a folder -/

namespace Load

variable {tree : FileTree} {folder : Path}

theorem not_stops_of_text {path : Path} {text : Text × Text} (h : text? tree path = some text) :
    ¬ Stops tree path := by
  unfold text? at h
  rcases readText_cases tree path with ⟨_, _, -, hnot⟩ | ⟨_, -, -, hnot⟩ | ⟨_, hread, -, -⟩
  · exact hnot
  · exact hnot
  · rw [hread] at h
    cases h

theorem filesOf_of_holds (h : tree.Holds folder files)
    (hsorted : files.Pairwise fun a b => Text.precedes a.1 b.1 = true) :
    filesOf tree folder = files.map fun file => folder.below [file.1] := by
  obtain ⟨rights, hfind⟩ := h.exists_find
  have hfolder : tree.isFolder folder = true := by rw [FileTree.isFolder, hfind]
  rw [filesOf, if_pos hfolder, h.discover hsorted]
  simp [Except.toOption]

/-- Every file that a folder holds has its text at the path where it is discovered. -/
theorem map_text?_of_holds (h : tree.Holds folder files) (htexts : Decoded files texts) :
    (files.map fun file => folder.below [file.1]).map (text? tree) = texts.map some := by
  rw [← List.forall₂_eq_eq_eq, List.forall₂_map_left_iff, List.forall₂_map_left_iff,
    List.forall₂_map_right_iff]
  refine ((List.forall₂_and_left _ _).mpr ⟨fun _ hfile => hfile, htexts⟩).imp ?_
  rintro file ⟨name, text⟩ ⟨hfile, htext⟩
  have hname : (folder.below [file.1]).name = file.1 := by simp [Path.below, Path.name]
  exact text?_eq_some_iff.mpr ⟨file.2, h.read_below hfile, by rwa [hname]⟩

/-- The loading of a folder of files that all have a text takes these in, in the order
of the names. -/
theorem paths_of_holds {store : Store} (hwf : store.indexes.WellFormed)
    (h : tree.Holds folder files)
    (hsorted : files.Pairwise fun a b => Text.precedes a.1 b.1 = true)
    (htexts : Decoded files texts) :
    (paths tree store [folder]).2 = none ∧
      (paths tree store [folder]).1.store = store.applyAll (Store.intake texts) := by
  have hfound : [folder].flatMap (filesOf tree) = files.map fun file => folder.below [file.1] := by
    rw [List.flatMap_singleton, filesOf_of_holds h hsorted]
  have hmap := map_text?_of_holds h htexts
  rw [← hfound] at hmap
  have hstops : ∀ path ∈ [folder].flatMap (filesOf tree), ¬ Stops tree path := by
    intro path hpath
    obtain ⟨text, -, htext⟩ := List.mem_map.mp (hmap ▸ List.mem_map_of_mem hpath)
    exact not_stops_of_text htext.symm
  have htaken : ([folder].flatMap (filesOf tree)).filterMap (text? tree) = texts := by
    rw [← Function.id_comp (text? tree), ← List.filterMap_map, hmap, List.filterMap_map]
    exact List.filterMap_some
  obtain ⟨last, houtcome, hcomplete⟩ :=
    paths_of_not_stops hwf (List.forall_mem_singleton.mpr h.clear) hstops
  rw [houtcome, hcomplete.taken, htaken]
  exact ⟨rfl, rfl⟩

end Load

/-! ### Files in a form -/

namespace Service

theorem start_of_holds {tree : FileTree} {inbox : Path} (h : tree.Holds inbox files)
    (hsorted : files.Pairwise fun a b => Text.precedes a.1 b.1 = true)
    (htexts : Decoded files texts) :
    (start tree inbox).store = .ok (Store.initial.applyAll (Store.intake texts)) := by
  obtain ⟨rights, hfind⟩ := h.exists_find
  exact start_eq_ok_iff.mpr ⟨tree, FileTree.ensureFolders_of_find hfind _,
    Load.paths_of_holds IndexMap.wellFormed_nil h hsorted htexts⟩

theorem upload_form {store : Store} (hwf : store.indexes.WellFormed) (hne : files ≠ [])
    (hnamed : ∀ file ∈ files, file.1 ≠ []) (htexts : Decoded files texts) :
    ∃ keys, upload store (form files) =
      (.answer (.uploaded (reports texts keys)), store.applyAll (Store.intake texts)) := by
  have hdecode : decodeAll files = .ok texts :=
    decodeAll_eq_ok_iff.mpr ((List.forall₂_and_left _ _).mpr ⟨hnamed, htexts⟩)
  obtain ⟨keys, -, hupload⟩ := upload_of_texts hwf (filesOf_form hne) hdecode
  exact ⟨keys, hupload⟩

theorem step_of_form (stamp : Text) (store : Store) {sent : List (Text × Bytes)}
    (hsent : sent.map FormPart.ofFile = form files) :
    step stamp (some store) (Request.upload sent) =
      if FormFault.maxFiles < files.length then
        (.refusal (.unreadable (.form .manyFiles)), some store)
      else ((upload store (form files)).1, some (upload store (form files)).2) := by
  have hfault := ofForm?_form files
  rw [← hsent] at hfault ⊢
  split
  · rename_i hlong
    exact step_upload_of_fault stamp _ (hfault.trans (if_pos hlong))
  · rename_i hshort
    exact step_upload stamp store (hfault.trans (if_neg hshort))

/-- **Start-up loading and upload agree on a thousand files.** Whatever files with plain
names an inbox holds, if each of them has a text, then a service starts with this inbox.
If there are at most a thousand, it has the very store that a service has which starts
with an empty one and then receives the same names and bytes as one form, in the order
of the code points of the names. The form is answered with success, whatever request it
arrives with; only the names as they arrive count. A larger form is refused, and the
store stays without the files that the inbox brings in. -/
theorem start_eq_upload {tree bare : FileTree} {inbox vacant : Path} (hne : files ≠ [])
    (hfiles : tree.Holds inbox files) (hvacant : bare.Holds vacant [])
    (htext : ∀ file ∈ files, ∃ name text, Content.HasText file.1 file.2 name text)
    (hsorted : files.Pairwise fun a b => Text.precedes a.1 b.1 = true) :
    ∃ first last,
      (start tree inbox).store = .ok last ∧
      (start bare vacant).store = .ok first ∧
      (files.length ≤ FormFault.maxFiles →
        ∃ reply, upload first (form files) = (reply, last) ∧
          reply.status? = some answerStatus ∧
          ∀ stamp sent, sent.map FormPart.ofFile = form files →
            step stamp (some first) (Request.upload sent) = (reply, some last)) ∧
      (FormFault.maxFiles < files.length →
        first ≠ last ∧
          ∀ stamp sent, sent.map FormPart.ofFile = form files →
            step stamp (some first) (Request.upload sent)
              = (.refusal (.unreadable (.form .manyFiles)), some first)) := by
  obtain ⟨texts, htexts⟩ := exists_decoded htext
  have hinitial : Store.initial.indexes.WellFormed := IndexMap.wellFormed_nil
  refine ⟨Store.initial, _, start_of_holds hfiles hsorted htexts,
    start_of_holds hvacant .nil .nil, fun hshort => ?_, fun hlong => ⟨?_, ?_⟩⟩
  · obtain ⟨keys, hupload⟩ := upload_form hinitial hne
      (fun file hfile => (hfiles.plain file hfile).nonempty) htexts
    refine ⟨_, hupload, rfl, fun stamp sent hsent => ?_⟩
    rw [step_of_form stamp _ hsent, if_neg (Nat.not_lt.mpr hshort), hupload]
  · have hnonempty : texts ≠ [] := by
      rintro rfl
      exact hne (List.forall₂_nil_right_iff.mp htexts)
    exact (applyAll_intake_ne hnonempty).symm
  · intro stamp sent hsent
    rw [step_of_form stamp _ hsent]
    exact if_pos hlong

theorem inbox_isPlain : FileTree.IsName "inbox".toList ∧ FileTree.IsPlain "inbox".toList := by
  decide +kernel

theorem holds_vacant :
    (FileTree.ofFolder "inbox".toList []).Holds (.relative ["inbox".toList]) [] :=
  FileTree.holds_ofFolder inbox_isPlain.1 inbox_isPlain.2 (List.forall_mem_nil _)
    (List.forall_mem_nil _) List.nodup_nil

/-- Two files for one index, put into the inbox in the other order: one starts with a
byte order mark, one is packed. The later name is the one that stays. -/
theorem start_eq_upload_colliding :
    let inbox : Path := .relative ["inbox".toList]
    let marked : Text × Bytes := ("A.csv".toList, [0xEF, 0xBB, 0xBF, 0x78, 0x0A, 0x31])
    let packed : Text × Bytes :=
      ("a.csv.gz".toList, [0x1F, 0x8B, 8, 0, 0, 0, 0, 0, 0, 0xFF, 1, 3, 0, 0xFC, 0xFF,
        0x78, 0x0A, 0x32, 0xF0, 0x59, 0x9B, 0x97, 3, 0, 0, 0])
    let bare := FileTree.ofFolder "inbox".toList []
    let tree := FileTree.ofFolder "inbox".toList [packed, marked]
    let last := (upload Store.initial (form [marked, packed])).2
    (start bare inbox).store = .ok Store.initial ∧
      (start tree inbox).store = .ok last ∧
      last.indexes.values =
        [⟨"A".toList, ["x".toList], [[("x".toList, "2".toList)]], "a.csv".toList⟩] := by
  intro inbox marked packed bare tree last
  have hfiles : tree.Holds inbox [marked, packed] :=
    (FileTree.holds_ofFolder inbox_isPlain.1 inbox_isPlain.2 (by decide +kernel)
      (by decide +kernel) (by decide)).perm (.swap _ _ _)
  have htext : ∀ file ∈ [marked, packed],
      ∃ name text, Content.HasText file.1 file.2 name text :=
    List.forall_mem_cons.mpr
      ⟨⟨"A.csv".toList, "x\n1".toList, Content.decode_eq_ok_iff.mp (by decide +kernel)⟩,
        List.forall_mem_singleton.mpr
          ⟨"a.csv".toList, "x\n2".toList, Content.decode_eq_ok_iff.mp (by decide +kernel)⟩⟩
  have hfirst : (start bare inbox).store = .ok Store.initial := by decide +kernel
  obtain ⟨first, after, hafter, hbare, hshort, -⟩ :=
    start_eq_upload (by decide) hfiles holds_vacant htext (by decide)
  obtain ⟨reply, hupload, -, -⟩ := hshort (by decide)
  cases hfirst.symm.trans hbare
  have hlast : last = after := congrArg Prod.snd hupload
  exact ⟨hfirst, hlast ▸ hafter, by decide +kernel⟩

/-! ### A file too many -/

/-- A name of a single character is too short to be that of a packed file. -/
theorem isPacked_singleton (c : Char) : Content.isPacked [c] = false := by
  have hlength : (Text.lower [c]).length ≤ 2 := by
    rw [Text.lower_eq_lowerFrom, Text.lowerFrom, Text.lowerFrom, List.append_nil]
    unfold Text.lowerChar
    split_ifs <;> simp
  rw [Content.isPacked, ← Bool.not_eq_true, List.isSuffixOf_iff_suffix]
  intro hsuffix
  have hlong : 3 ≤ (Text.lower [c]).length := hsuffix.length_le
  omega

theorem plain_of_single {c : Char} (h : 0x80 ≤ c.toNat) :
    FileTree.IsName [c] ∧ FileTree.IsPlain [c] := by
  have hne : ∀ d : Char, d.toNat < 0x80 → c ≠ d := by
    rintro d hd rfl
    omega
  have hsize : FileTree.byteLength [c] ≤ 4 := by
    rw [FileTree.byteLength, String.ofList_cons, String.utf8ByteSize_append,
      String.utf8ByteSize_singleton]
    exact Char.utf8Size_le_four c
  exact ⟨⟨by simp [hne '.' (by decide)], by omega, by simpa using (hne '\x00' (by decide)).symm⟩,
    by simp, by simpa using (hne '/' (by decide)).symm, by simpa using hne '.' (by decide)⟩

/-- A service starts with an inbox of one file more than a form may have, but refuses them
all as a form. -/
theorem start_ne_upload_of_many :
    let inbox : Path := .relative ["inbox".toList]
    let files : List (Text × Bytes) :=
      (List.range 1001).map fun i => ([Char.ofNat (0x4E00 + i)], [])
    let bare := FileTree.ofFolder "inbox".toList []
    let tree := FileTree.ofFolder "inbox".toList files
    tree.Holds inbox files ∧ bare.Holds inbox [] ∧
      (∀ file ∈ files, ∃ name text, Content.HasText file.1 file.2 name text) ∧
      files.Pairwise (fun a b => Text.precedes a.1 b.1 = true) ∧
      ∃ last, (start tree inbox).store = .ok last ∧
        (start bare inbox).store = .ok Store.initial ∧
        let outcome := step [] (some Store.initial) (Request.upload files)
        outcome.1.status? = some 400 ∧ outcome.2 = some Store.initial ∧ outcome.2 ≠ some last := by
  intro inbox files bare tree
  have hcode : ∀ i ∈ List.range 1001, (Char.ofNat (0x4E00 + i)).toNat = 0x4E00 + i := by
    intro i hi
    have hi := List.mem_range.mp hi
    exact Text.toNat_ofNat_of_isValidChar (.inl (by omega))
  have hsingle : ∀ file ∈ files, FileTree.IsName file.1 ∧ FileTree.IsPlain file.1 := by
    refine List.forall_mem_map.mpr fun i hi => plain_of_single ?_
    rw [hcode i hi]
    omega
  have hdistinct : (files.map Prod.fst).Nodup := by
    rw [List.map_map]
    refine List.nodup_range.map_on fun i hi j hj hsame => ?_
    have hsame := congrArg Char.toNat (List.head_eq_of_cons_eq hsame)
    rw [hcode i hi, hcode j hj] at hsame
    omega
  have htext : ∀ file ∈ files, Content.HasText file.1 file.2 file.1 [] :=
    List.forall_mem_map.mpr fun i _ => by
      rw [← Content.decode_eq_ok_iff, Content.decode, Content.decodeIn, Content.unpack,
        isPacked_singleton]
      rfl
  have hsorted : files.Pairwise fun a b => Text.precedes a.1 b.1 = true := by
    rw [List.pairwise_map]
    refine List.pairwise_lt_range.imp_of_mem fun hi hj hlt => ?_
    simp [Text.precedes, hcode _ hi, hcode _ hj, hlt]
  have hfiles : tree.Holds inbox files :=
    FileTree.holds_ofFolder inbox_isPlain.1 inbox_isPlain.2
      (fun file hfile => (hsingle file hfile).1) (fun file hfile => (hsingle file hfile).2)
      hdistinct
  obtain ⟨texts, htexts⟩ := exists_decoded fun file hfile => ⟨_, _, htext file hfile⟩
  have hlong : FormFault.maxFiles < files.length := by
    rw [List.length_map, List.length_range]
    decide
  have hstep := step_upload_of_fault [] (some Store.initial) ((ofForm?_of_named
    fun file hfile => (hsingle file hfile).2.nonempty).trans (if_pos hlong))
  refine ⟨hfiles, holds_vacant, fun file hfile => ⟨_, _, htext file hfile⟩, hsorted, _,
    start_of_holds hfiles hsorted htexts, start_of_holds holds_vacant .nil .nil, ?_⟩
  have hnonempty : texts ≠ [] := by
    rintro rfl
    rw [List.forall₂_nil_right_iff.mp htexts] at hlong
    cases hlong
  rw [hstep]
  exact ⟨rfl, rfl, fun hsame => applyAll_intake_ne hnonempty (Option.some.inj hsame).symm⟩

end Service

end ArtifactSearch
