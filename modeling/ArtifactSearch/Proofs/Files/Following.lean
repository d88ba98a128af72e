import ArtifactSearch.Files.Tree
import ArtifactSearch.Proofs.Text.Split
import Mathlib.Data.List.Basic

/-!
# ArtifactSearch.Proofs.Files.Following

**Where paths lead.** Names are followed one part after the other (`follow_append`), so a path
below another one is followed from the location of that one (`locate_below`). From there, names
as file systems have them lead straight down, if every folder on the way may be entered
(`find_below`); if one may not, or the path gets too long, there is an obstacle
(`obstacle?_below_eq_none_iff`).

A folder that is there already is found by the way on which it would be made
(`locateNew_of_locate`), and making it leaves everything as it is (`ensureFolders_of_find`).
-/

namespace ArtifactSearch

theorem Path.steps_below {names : List Text} (hne : names ≠ []) (path : Path) :
    (path.below names).steps = path.names ++ names := by
  rw [steps, if_neg (by simp [below, hne])]
  rfl

/-- No zero character comes in from a path that has none. -/
theorem Path.noZero_below {path : Path} {names : List Text} (h : '\x00' ∉ path.toText)
    (hnames : ∀ name ∈ names, '\x00' ∉ name) : '\x00' ∉ (path.below names).toText := by
  have hroot : '\x00' ∉ path.root ∧ ∀ name ∈ path.names, '\x00' ∉ name := by
    rw [toText] at h
    split_ifs at h with hempty
    · simp only [Bool.and_eq_true, List.isEmpty_iff] at hempty
      simp [hempty]
    · rw [List.mem_append, not_or, Text.mem_join_iff (by decide)] at h
      simpa using h
  rw [toText]
  split_ifs
  · decide
  · rw [List.mem_append, not_or, Text.mem_join_iff (by decide)]
    refine ⟨hroot.1, ?_⟩
    rintro ⟨name, hname, hzero⟩
    rcases List.mem_append.mp hname with hname | hname
    · exact hroot.2 name hname hzero
    · exact hnames name hname hzero

namespace FileTree

theorem byteLength_append (s t : Text) : byteLength (s ++ t) = byteLength s + byteLength t := by
  rw [byteLength, String.ofList_append, String.utf8ByteSize_append]
  rfl

/-- A name as file systems have them. That it is not empty and holds no slash goes without
saying where it is one of several. -/
structure IsName (name : Text) : Prop where
  undotted : name ≠ ['.'] ∧ name ≠ ['.', '.']
  short : byteLength name ≤ 255
  noZero : '\x00' ∉ name

instance (name : Text) : Decidable (IsName name) :=
  decidable_of_iff
    ((name ≠ ['.'] ∧ name ≠ ['.', '.']) ∧ byteLength name ≤ 255 ∧ '\x00' ∉ name)
    ⟨fun h => ⟨h.1, h.2.1, h.2.2⟩, fun h => ⟨h.undotted, h.short, h.noZero⟩⟩

/-- On the way from a location along names, every folder is there and gives a right. -/
def Passes (tree : FileTree) (right : Rights → Bool) : Location → List Text → Prop
  | _, [] => True
  | location, name :: rest =>
    (∃ rights, tree.entryAt? location = some (.folder rights) ∧ right rights = true) ∧
      Passes tree right (location ++ [name]) rest

variable {tree : FileTree} {location : Location} {path folder : Path} {names : List Text}
  {entry : Entry} {right : Rights → Bool}

/-! ### Following names -/

theorem follow_append (tree : FileTree) (location : Location) (before after : List Text) :
    tree.follow location (before ++ after)
      = tree.follow location before >>= fun middle => tree.follow middle after := by
  induction before generalizing location with
  | nil => rfl
  | cons name rest ih =>
      rw [List.cons_append, follow, follow]
      split
      · rfl
      · rfl
      · split_ifs
        · rfl
        · exact ih _
        · exact ih _
        · rfl
        · rfl
        · exact ih _

/-- The dot that stands for no names at all leads nowhere else. -/
theorem follow_names {last : Location} (h : tree.follow location path.steps = .ok last) :
    tree.follow location path.names = .ok last := by
  rw [Path.steps] at h
  split_ifs at h with hempty
  · simp only [Bool.and_eq_true, List.isEmpty_iff] at hempty
    rw [follow] at h
    rw [hempty.2]
    split at h
    · cases h
    · cases h
    · rw [if_pos (rfl : ['.'] = ['.'])] at h
      split_ifs at h
      exact h
  · exact h

theorem locate_eq_ok_iff :
    tree.locate path = .ok location ↔
      fault? path = none ∧ tree.follow (tree.start path) path.steps = .ok location := by
  unfold locate
  cases fault? path <;> simp

theorem locate_below (hlocate : tree.locate folder = .ok location) (hne : names ≠ [])
    (hfault : fault? (folder.below names) = none) :
    tree.locate (folder.below names) = tree.follow location names := by
  rw [locate, hfault]
  dsimp only
  rw [Path.steps_below hne, follow_append]
  have hfolder : tree.follow (tree.start (folder.below names)) folder.names = .ok location :=
    follow_names (locate_eq_ok_iff.mp hlocate).2
  rw [hfolder]
  rfl

theorem exists_locate_of_find (h : tree.find path = .ok entry) :
    ∃ location, tree.locate path = .ok location ∧ tree.entryAt? location = some entry := by
  unfold find at h
  cases hlocate : tree.locate path with
  | error fault =>
      rw [hlocate] at h
      cases h
  | ok location =>
      refine ⟨location, rfl, ?_⟩
      rw [hlocate] at h
      cases hentry : tree.entryAt? location with
      | none => simp [bind, Except.bind, hentry] at h
      | some entry => simpa [bind, Except.bind, pure, Except.pure, hentry] using h

theorem find_of_locate (hlocate : tree.locate path = .ok location)
    (hentry : tree.entryAt? location = some entry) : tree.find path = .ok entry := by
  rw [find, hlocate]
  simp [bind, Except.bind, pure, Except.pure, hentry]

theorem obstacle?_of_find (h : tree.find path = .ok entry) : tree.obstacle? path = none := by
  rw [obstacle?, h]

/-! ### Straight down -/

theorem isSome_entryAt?_of_passes (hentry : tree.entryAt? (location ++ names) = some entry)
    (h : Passes tree right location names) : (tree.entryAt? location).isSome := by
  cases names with
  | nil => rw [← List.append_nil location, hentry, Option.isSome_some]
  | cons name rest =>
      obtain ⟨⟨rights, hfolder, -⟩, -⟩ := h
      rw [hfolder, Option.isSome_some]

/-- A name that stands in a folder leads there, if the folder may be entered. -/
theorem follow_cons {name : Text} {rights : Rights} (hname : IsName name)
    (hfolder : tree.entryAt? location = some (.folder rights))
    (hthere : (tree.entryAt? (location ++ [name])).isSome) (rest : List Text) :
    tree.follow location (name :: rest) =
      if rights.enters then tree.follow (location ++ [name]) rest else .error .forbidden := by
  have hshort : ¬ 255 < byteLength name := Nat.not_lt.mpr hname.short
  rw [follow, hfolder]
  dsimp only
  cases rights.enters with
  | false => rfl
  | true =>
      rw [if_neg (by decide), if_neg hname.undotted.1, if_neg hname.undotted.2, if_neg hshort,
        if_neg (by simpa [Option.isSome_iff_ne_none] using hthere), if_pos rfl]

/-- Names on whose way all folders are there lead where they say, or into a folder that may
not be entered. -/
theorem follow_of_passes (hnames : ∀ name ∈ names, IsName name)
    (hentry : tree.entryAt? (location ++ names) = some entry)
    (hthere : Passes tree right location names) :
    (Passes tree Rights.enters location names ∧
        tree.follow location names = .ok (location ++ names)) ∨
      (¬ Passes tree Rights.enters location names ∧
        tree.follow location names = .error .forbidden) := by
  induction names generalizing location with
  | nil => exact .inl ⟨trivial, congrArg Except.ok (List.append_nil location).symm⟩
  | cons name rest ih =>
      obtain ⟨hname, hrest⟩ := List.forall_mem_cons.mp hnames
      obtain ⟨⟨rights, hfolder, -⟩, hbelow⟩ := hthere
      have hsplit : location ++ name :: rest = location ++ [name] ++ rest :=
        List.append_cons location name rest
      rw [hsplit] at hentry ⊢
      rw [follow_cons hname hfolder (isSome_entryAt?_of_passes hentry hbelow)]
      cases henters : rights.enters with
      | false =>
          refine .inr ⟨?_, rfl⟩
          rintro ⟨⟨rights', hfolder', henters'⟩, -⟩
          cases hfolder.symm.trans hfolder'
          rw [henters] at henters'
          cases henters'
      | true =>
          refine (ih hrest hentry hbelow).imp ?_ ?_
          · exact fun h => ⟨⟨⟨rights, hfolder, henters⟩, h.1⟩, h.2⟩
          · exact fun h => ⟨fun hpasses => h.1 hpasses.2, h.2⟩

theorem fault?_below (hfault : fault? folder = none) (hnames : ∀ name ∈ names, IsName name) :
    fault? (folder.below names) =
      if 4096 ≤ byteLength (folder.below names).toText then some .tooLong else none := by
  have hzero : '\x00' ∉ folder.toText := by
    intro hzero
    rw [fault?, if_pos (by simpa using hzero)] at hfault
    cases hfault
  rw [fault?, if_neg]
  simpa using Path.noZero_below hzero fun name hname => (hnames name hname).noZero

section Below

variable (hlocate : tree.locate folder = .ok location) (hnames : ∀ name ∈ names, IsName name)
  (hne : names ≠ []) (hentry : tree.entryAt? (location ++ names) = some entry)
include hlocate hnames hne hentry

theorem find_below (hshort : byteLength (folder.below names).toText < 4096)
    (henters : Passes tree Rights.enters location names) :
    tree.find (folder.below names) = .ok entry := by
  have hfault : fault? (folder.below names) = none := by
    rw [fault?_below (locate_eq_ok_iff.mp hlocate).1 hnames, if_neg (Nat.not_le.mpr hshort)]
  refine find_of_locate ?_ hentry
  rw [locate_below hlocate hne hfault]
  rcases follow_of_passes hnames hentry henters with ⟨-, hfollow⟩ | ⟨hbarred, -⟩
  · exact hfollow
  · exact absurd henters hbarred

/-- What stands below a folder can be looked at if its path is not too long and every folder
on the way may be entered, and not otherwise. -/
theorem obstacle?_below_eq_none_iff (hthere : Passes tree right location names) :
    tree.obstacle? (folder.below names) = none ↔
      byteLength (folder.below names).toText < 4096 ∧
        Passes tree Rights.enters location names := by
  refine ⟨fun h => ?_, fun h => obstacle?_of_find (find_below hlocate hnames hne hentry h.1 h.2)⟩
  have hfault := fault?_below (locate_eq_ok_iff.mp hlocate).1 hnames
  by_cases hlong : 4096 ≤ byteLength (folder.below names).toText
  · rw [if_pos hlong] at hfault
    rw [obstacle?, find, locate, hfault] at h
    cases h
  · rw [if_neg hlong] at hfault
    refine ⟨Nat.not_le.mp hlong, ?_⟩
    rcases follow_of_passes hnames hentry hthere with ⟨henters, -⟩ | ⟨-, hfollow⟩
    · exact henters
    · rw [obstacle?, find, locate_below hlocate hne hfault, hfollow] at h
      cases h

end Below

/-! ### Folders that are there already -/

theorem locateNew_of_locate (h : tree.locate path = .ok location) :
    tree.locateNew path = .ok location := by
  obtain ⟨hfault, hfollow⟩ := locate_eq_ok_iff.mp h
  rw [locateNew, hfault]
  dsimp only
  cases hlast : path.steps.getLast? with
  | none =>
      rw [List.getLast?_eq_none_iff.mp hlast] at hfollow
      exact hfollow
  | some name =>
      -- The names before the last one are followed the same way by both.
      have hsplit : path.steps.dropLast ++ [name] = path.steps :=
        List.dropLast_append_getLast? name hlast
      rw [← hsplit, follow_append] at hfollow
      dsimp only
      cases hbefore : tree.follow (tree.start path) path.steps.dropLast with
      | error fault =>
          rw [hbefore] at hfollow
          cases hfollow
      | ok place =>
          rw [hbefore] at hfollow
          simp only [bind, Except.bind, follow] at hfollow ⊢
          split at hfollow
          · cases hfollow
          · cases hfollow
          · rename_i hfolder
            rw [hfolder]
            dsimp only
            split_ifs at hfollow ⊢
            · exact hfollow
            · exact hfollow
            · exact hfollow

theorem ensureFolder_of_find {rights : Rights} (h : tree.find path = .ok (.folder rights)) :
    tree.ensureFolder path = .ok tree := by
  obtain ⟨location, hlocate, hentry⟩ := exists_locate_of_find h
  have hmake : tree.makeFolder path = .error .exists := by
    rw [makeFolder, locateNew_of_locate hlocate]
    simp only [bind, Except.bind, hentry, Option.isSome_some, if_true]
    rfl
  have hfolder : tree.isFolder path = true := by rw [isFolder, h]
  rw [ensureFolder, hmake]
  exact if_pos hfolder

theorem ensureFolders_of_find {rights : Rights} (h : tree.find path = .ok (.folder rights))
    (fuel : Nat) : tree.ensureFolders path (fuel + 1) = (tree, none) := by
  rw [ensureFolders, ensureFolder_of_find h]

end FileTree

end ArtifactSearch
