import ArtifactSearch.Proofs.Files.Discovery

/-!
# ArtifactSearch.Proofs.Files.Folder

**What a folder holds**, said by names and bytes instead of locations and entries.
`Holds` allows for anything beside the files that discovery passes over: folders
without files, hidden files, and whatever stands elsewhere.

A file that a folder holds can be read by the path of the folder and its name
(`Holds.read_below`), and discovery finds the names in the order of their code points
(`Holds.discover`). A folder with nothing but the files is one that holds them
(`holds_ofFolder`).
-/

namespace ArtifactSearch.FileTree

/-- A name that a file can have and that does not hide it. -/
structure IsPlain (name : Text) : Prop where
  nonempty : name ≠ []
  noSlash : '/' ∉ name
  visible : name.head? ≠ some '.'

instance (name : Text) : Decidable (IsPlain name) :=
  decidable_of_iff (name ≠ [] ∧ '/' ∉ name ∧ name.head? ≠ some '.')
    ⟨fun h => ⟨h.1, h.2.1, h.2.2⟩, fun h => ⟨h.nonempty, h.noSlash, h.visible⟩⟩

/-- There is a folder at the path that may be listed, and the files below it that are not hidden
are these, directly in it, in whatever order the tree has them. They may be read, and everything
below the folder can be looked at. -/
structure Holds (tree : FileTree) (folder : Path) (files : List (Text × Bytes)) : Prop where
  proper : tree.Proper
  clear : tree.Clear folder
  listed : ∃ location rights, tree.locate folder = .ok location ∧
    tree.entryAt? location = some (.folder rights) ∧ rights.reads = true ∧
    (∀ file ∈ files, ∃ rights, tree.entryAt? (location ++ [file.1]) = some (.file file.2 rights) ∧
      rights.reads = true) ∧
    ∀ names bytes rights, tree.entryAt? (location ++ names) = some (.file bytes rights) →
      (∀ name ∈ names, name.head? ≠ some '.') → ∃ file ∈ files, names = [file.1]
  distinct : (files.map Prod.fst).Nodup
  plain : ∀ file ∈ files, IsPlain file.1

variable {tree : FileTree} {location : Location} {folder : Path} {name : Text}
  {files : List (Text × Bytes)} {file : Text × Bytes}

/-! ### Reading and discovering -/

theorem Holds.perm {others : List (Text × Bytes)} (h : tree.Holds folder files)
    (hperm : files.Perm others) : tree.Holds folder others := by
  obtain ⟨location, rights, hlocate, hfolder, hreads, hfiles, honly⟩ := h.listed
  refine ⟨h.proper, h.clear, ⟨location, rights, hlocate, hfolder, hreads,
    fun file hfile => hfiles file (hperm.mem_iff.mpr hfile),
    fun names bytes given hentry hvisible => ?_⟩, (hperm.map _).nodup_iff.mp h.distinct,
    fun file hfile => h.plain file (hperm.mem_iff.mpr hfile)⟩
  obtain ⟨file, hfile, hnames⟩ := honly names bytes given hentry hvisible
  exact ⟨file, hperm.mem_iff.mp hfile, hnames⟩

theorem Holds.exists_find (h : tree.Holds folder files) :
    ∃ rights, tree.find folder = .ok (.folder rights) := by
  obtain ⟨location, rights, hlocate, hfolder, -⟩ := h.listed
  exact ⟨rights, find_of_locate hlocate hfolder⟩

theorem Holds.read_below (h : tree.Holds folder files) (hfile : file ∈ files) :
    tree.read (folder.below [file.1]) = .ok file.2 := by
  obtain ⟨location, rights, hlocate, hfolder, hreads, hfiles, -⟩ := h.listed
  obtain ⟨given, hentry, hgiven⟩ := hfiles file hfile
  have hlisted : tree.Listed location [file.1] :=
    ⟨List.cons_ne_nil _ _, by rw [hentry]; rfl, ⟨rights, hfolder, hreads⟩, trivial⟩
  rw [read, h.clear.find_below h.proper hlocate hlisted hentry]
  exact if_pos hgiven

/-- Discovery finds the files of a folder in the order of their names. -/
theorem Holds.discover (h : tree.Holds folder files)
    (hsorted : files.Pairwise fun a b => Text.precedes a.1 b.1 = true) :
    tree.discover folder = .ok (files.map fun file => [file.1]) := by
  obtain ⟨location, rights, hlocate, hfolder, hreads, hfiles, honly⟩ := h.listed
  have hmem : ∀ names, names ∈ tree.discovered folder ↔ names ∈ files.map fun file => [file.1] := by
    intro names
    rw [mem_discovered_iff_of_clear h.proper hlocate hfolder h.clear, List.mem_map]
    constructor
    · rintro ⟨⟨bytes, given, hentry⟩, -, hvisible⟩
      obtain ⟨file, hfile, rfl⟩ := honly names bytes given hentry hvisible
      exact ⟨file, hfile, rfl⟩
    · rintro ⟨file, hfile, rfl⟩
      obtain ⟨given, hentry, -⟩ := hfiles file hfile
      exact ⟨⟨_, given, hentry⟩, ⟨⟨rights, hfolder, hreads⟩, trivial⟩,
        List.forall_mem_singleton.mpr (h.plain file hfile).visible⟩
  have hnames : (files.map fun file => [file.1]).Nodup := by
    have hsingle : (fun file : Text × Bytes => [file.1]) = (fun name => [name]) ∘ Prod.fst := rfl
    rw [hsingle, ← List.map_map]
    exact h.distinct.map fun _ _ => List.head_eq_of_cons_eq
  refine discover_eq_ok_iff.mpr ⟨h.clear, sorted_eq_of_perm ?_ ?_ ?_⟩
  · exact (List.mergeSort_perm _ _).symm.trans ((List.perm_ext_iff_of_nodup
      (nodup_discovered h.proper.distinct folder) hnames).mpr hmem)
  · rw [List.pairwise_map]
    simpa [relativeText] using hsorted
  · -- Paths of one name are the same if their texts are.
    simp only [List.forall_mem_map, relativeText, Text.join_singleton]
    exact fun _ _ _ _ hname => congrArg (fun name => [name]) hname

/-! ### A folder of files -/

/-- The tree with a single folder, and files in it. -/
def ofFolder (name : Text) (files : List (Text × Bytes)) : FileTree :=
  ⟨([name], .folder) :: files.map fun file => ([name, file.1], .file file.2), []⟩

section OfFolder

variable (hname : IsName name) (hplain : IsPlain name)
include hname

theorem locate_ofFolder (files : List (Text × Bytes)) :
    (ofFolder name files).locate (.relative [name]) = .ok [name] := by
  have htop : (ofFolder name files).locate (.relative []) = .ok [] := rfl
  have hfolder : (ofFolder name files).entryAt? ([] ++ [name]) = some .folder :=
    List.lookup_cons_self
  have hshort : ¬ 4096 ≤ byteLength name :=
    Nat.not_le.mpr (Nat.lt_of_le_of_lt hname.short (by decide))
  have hfault : fault? (.relative [name]) = none := by
    have hbelow := fault?_below (show fault? (.relative []) = none from rfl)
      (List.forall_mem_singleton.mpr hname)
    rwa [if_neg (by simpa [Path.below, Path.relative, Path.toText] using hshort)] at hbelow
  have hfollow : (ofFolder name files).follow [] [name] = .ok [name] :=
    (follow_cons hname rfl (by rw [hfolder]; rfl) []).trans (if_pos rfl)
  exact (locate_below htop (List.cons_ne_nil _ _) hfault).trans hfollow

include hplain

variable (hallowed : ∀ file ∈ files, IsName file.1) (hfiles : ∀ file ∈ files, IsPlain file.1)
include hallowed hfiles

theorem proper_ofFolder (hdistinct : (files.map Prod.fst).Nodup) :
    (ofFolder name files).Proper := by
  have hentries : ∀ {p : Text → Prop}, p name → (∀ file ∈ files, p file.1) →
      ∀ entry ∈ (ofFolder name files).entries, ∀ part ∈ entry.1, p part := by
    intro p hp hall
    simp only [ofFolder, List.forall_mem_cons, List.forall_mem_map]
    exact ⟨⟨hp, nofun⟩, fun file hfile => ⟨hp, hall file hfile, nofun⟩⟩
  refine ⟨⟨?_, hentries ⟨hplain.nonempty, hplain.noSlash⟩ fun file hfile =>
    ⟨(hfiles file hfile).nonempty, (hfiles file hfile).noSlash⟩⟩, hentries hname hallowed⟩
  have hkeys : (ofFolder name files).entries.map Prod.fst
      = [name] :: (files.map Prod.fst).map fun part => [name, part] := by
    simp [ofFolder, Function.comp_def]
  rw [hkeys, List.nodup_cons]
  exact ⟨by simp, hdistinct.map fun _ _ h => by simpa using h⟩

/-- A folder with nothing but files in it holds them. -/
theorem holds_ofFolder (hdistinct : (files.map Prod.fst).Nodup) :
    (ofFolder name files).Holds (.relative [name]) files := by
  have hproper := proper_ofFolder hname hplain hallowed hfiles hdistinct
  have hlocate := locate_ofFolder hname files
  have hfolder : (ofFolder name files).entryAt? [name] = some .folder := List.lookup_cons_self
  have hmem : ∀ {names : List Text} {entry : Entry}, names ≠ [] →
      (ofFolder name files).entryAt? ([name] ++ names) = some entry →
      ∃ file ∈ files, names = [file.1] := by
    intro names entry hne hentry
    rw [entryAt?_eq_some_iff hproper.distinct (by simp)] at hentry
    rcases List.mem_cons.mp hentry with hsame | hentry
    · exact absurd (List.tail_eq_of_cons_eq (congrArg Prod.fst hsame)) hne
    · obtain ⟨file, hfile, hsame⟩ := List.mem_map.mp hentry
      exact ⟨file, hfile, (List.tail_eq_of_cons_eq (congrArg Prod.fst hsame)).symm⟩
  refine ⟨hproper, ⟨obstacle?_of_find (find_of_locate hlocate hfolder), ?_⟩,
    ⟨[name], .all, hlocate, hfolder, rfl, fun file hfile => ⟨.all, ?_, rfl⟩, ?_⟩, hdistinct,
    hfiles⟩
  · intro location names hplace hlisted
    cases hlocate.symm.trans hplace
    refine (obstacle?_of_listed hproper hlocate hlisted).mpr ?_
    obtain ⟨entry, hentry⟩ := Option.isSome_iff_exists.mp hlisted.there
    obtain ⟨file, hfile, rfl⟩ := hmem hlisted.below hentry
    refine ⟨?_, ⟨.all, hfolder, rfl⟩, trivial⟩
    have htext : (Path.below (.relative [name]) [file.1]).toText = name ++ ['/'] ++ file.1 := by
      simp [Path.below, Path.relative, Path.toText, Text.join_cons_cons]
    have hslash : byteLength ['/'] = 1 := by decide +kernel
    have hshort := hname.short
    have hshort' := (hallowed file hfile).short
    rw [htext, byteLength_append, byteLength_append]
    omega
  · refine (entryAt?_eq_some_iff hproper.distinct (by simp)).mpr (List.mem_cons_of_mem _ ?_)
    exact List.mem_map_of_mem hfile
  · intro names bytes rights hentry _
    refine hmem ?_ hentry
    rintro rfl
    rw [List.append_nil, hfolder] at hentry
    cases hentry

end OfFolder

end ArtifactSearch.FileTree
