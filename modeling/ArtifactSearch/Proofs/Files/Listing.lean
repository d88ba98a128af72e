import ArtifactSearch.Files.Discover
import ArtifactSearch.Frame
import ArtifactSearch.Proofs.Files.Following
import Mathlib.Data.List.Nodup

/-!
# ArtifactSearch.Proofs.Files.Listing

**What is listed below a folder** stands there behind folders that may be listed
(`mem_listing_iff`, by induction on how deep the listing goes), and each thing is listed once
(`nodup_listing`). Discovery looks at all of it: it succeeds exactly if the folder is `Clear`
(`discover_eq_ok_iff`), and else fails at the first obstacle (`obstacle?_of_discover`).
-/

namespace ArtifactSearch

namespace FileTree

variable {tree : FileTree} {location : Location} {folder : Path} {names : List Text}

/-! ### Entries -/

theorem entryAt?_eq_some_iff (hdistinct : (tree.entries.map Prod.fst).Nodup) {entry : Entry}
    (hne : location ≠ []) :
    tree.entryAt? location = some entry ↔ (location, entry) ∈ tree.entries := by
  rw [entryAt?, if_neg (by simpa using hne), List.lookup_eq_some_iff]
  constructor
  · rintro ⟨before, after, hentries, -⟩
    simp [hentries]
  · intro hmem
    obtain ⟨before, after, hentries⟩ := List.append_of_mem hmem
    refine ⟨before, after, hentries, fun other hother => ?_⟩
    rw [hentries, List.map_append, List.map_cons] at hdistinct
    have hne : other.1 ≠ location :=
      (List.nodup_append.mp hdistinct).2.2 _ (List.mem_map_of_mem hother) _ List.mem_cons_self
    simpa using hne.symm

theorem isSome_entryAt?_iff (hne : location ≠ []) :
    (tree.entryAt? location).isSome ↔ location ∈ tree.entries.map Prod.fst := by
  rw [entryAt?, if_neg (by simpa using hne), ← not_iff_not, Bool.not_eq_true,
    Option.isSome_eq_false_iff, Option.isNone_iff_eq_none, List.lookup_eq_none_iff, List.mem_map]
  constructor
  · rintro h ⟨entry, hmem, rfl⟩
    simpa using h entry hmem
  · intro h entry hmem
    simpa using fun hsame : location = entry.1 => h ⟨entry, hmem, hsame.symm⟩

theorem length_le_depth (hne : location ≠ []) (h : (tree.entryAt? location).isSome) :
    location.length ≤ tree.depth := by
  obtain ⟨entry, hmem, rfl⟩ := List.mem_map.mp ((isSome_entryAt?_iff hne).mp h)
  have hdepth : tree.depth = (tree.entries.map fun entry => entry.1.length).foldl max 0 :=
    List.foldl_map.symm
  rw [hdepth]
  exact (Frame.largest_le_iff.mp (Nat.le_refl _)).2 _ (List.mem_map_of_mem hmem)

theorem name?_eq_some_iff {place : Location} {name : Text} :
    (if place.dropLast = location then place.getLast? else none) = some name ↔
      place = location ++ [name] := by
  constructor
  · intro h
    split_ifs at h with hplace
    rw [← hplace]
    exact (List.dropLast_append_getLast? name h).symm
  · rintro rfl
    rw [List.dropLast_concat, if_pos rfl, List.getLast?_concat]

theorem mem_namesIn_iff {name : Text} :
    name ∈ tree.namesIn location ↔ (tree.entryAt? (location ++ [name])).isSome := by
  rw [isSome_entryAt?_iff (by simp), namesIn, List.mem_filterMap, List.mem_map]
  exact exists_congr fun entry => and_congr_right fun _ => name?_eq_some_iff

theorem nodup_namesIn (hdistinct : (tree.entries.map Prod.fst).Nodup) (location : Location) :
    (tree.namesIn location).Nodup := by
  rw [List.Nodup, namesIn, List.pairwise_filterMap]
  refine (List.pairwise_map.mp hdistinct).imp fun hne name hname other hother hsame => hne ?_
  rw [name?_eq_some_iff.mp hname, name?_eq_some_iff.mp hother, hsame]

/-! ### Listing -/

/-- Something stands at names below a location, and every folder on the way may be listed. -/
structure Listed (tree : FileTree) (location : Location) (names : List Text) : Prop where
  below : names ≠ []
  there : (tree.entryAt? (location ++ names)).isSome
  passes : tree.Passes Rights.reads location names

theorem mem_listedBelow_succ_iff {depth : Nat} :
    names ∈ tree.listedBelow (depth + 1) location ↔
      (∃ rights, tree.entryAt? location = some (.folder rights) ∧ rights.reads = true) ∧
        ∃ name rest, names = name :: rest ∧ (tree.entryAt? (location ++ [name])).isSome ∧
          (rest = [] ∨ rest ∈ tree.listedBelow depth (location ++ [name])) := by
  rw [listedBelow]
  split
  · rename_i rights hfolder
    rw [hfolder]
    cases hreads : rights.reads with
    | false => simp [hreads]
    | true =>
        simp only [if_true, List.mem_append, List.mem_map, List.mem_flatMap, mem_namesIn_iff,
          Option.some.injEq, Entry.folder.injEq, exists_eq_left', hreads, true_and]
        constructor
        · rintro (⟨name, hname, rfl⟩ | ⟨name, hname, rest, hrest, rfl⟩)
          · exact ⟨name, [], rfl, hname, .inl rfl⟩
          · exact ⟨name, rest, rfl, hname, .inr hrest⟩
        · rintro ⟨name, rest, rfl, hname, rfl | hrest⟩
          · exact .inl ⟨name, hname, rfl⟩
          · exact .inr ⟨name, hname, rest, hrest, rfl⟩
  · rename_i hfolder
    refine iff_of_false List.not_mem_nil ?_
    rintro ⟨⟨rights, h, -⟩, -⟩
    exact hfolder rights h

/-- What is listed is what stands below at most that deep, behind folders that may be listed. -/
theorem mem_listedBelow_iff {depth : Nat} :
    names ∈ tree.listedBelow depth location ↔
      tree.Listed location names ∧ names.length ≤ depth := by
  induction depth generalizing location names with
  | zero =>
      refine iff_of_false List.not_mem_nil ?_
      rintro ⟨h, hlength⟩
      exact h.below (List.length_eq_zero_iff.mp (Nat.le_zero.mp hlength))
  | succ depth ih =>
      rw [mem_listedBelow_succ_iff]
      constructor
      · rintro ⟨hfolder, name, rest, rfl, hname, rfl | hrest⟩
        · exact ⟨⟨List.cons_ne_nil _ _, hname, hfolder, trivial⟩, Nat.le_add_left _ _⟩
        · obtain ⟨hlisted, hlength⟩ := ih.mp hrest
          refine ⟨⟨List.cons_ne_nil _ _, ?_, hfolder, hlisted.passes⟩, Nat.succ_le_succ hlength⟩
          rw [List.append_cons]
          exact hlisted.there
      · rintro ⟨⟨hne, hthere, hpasses⟩, hlength⟩
        obtain ⟨name, rest, rfl⟩ := List.exists_cons_of_ne_nil hne
        rw [List.append_cons] at hthere
        obtain ⟨entry, hentry⟩ := Option.isSome_iff_exists.mp hthere
        refine ⟨hpasses.1, name, rest, rfl, isSome_entryAt?_of_passes hentry hpasses.2, ?_⟩
        by_cases hrest : rest = []
        · exact .inl hrest
        · exact .inr (ih.mpr ⟨⟨hrest, hthere, hpasses.2⟩, Nat.succ_le_succ_iff.mp hlength⟩)

theorem nodup_listedBelow (hdistinct : (tree.entries.map Prod.fst).Nodup) (depth : Nat)
    (location : Location) : (tree.listedBelow depth location).Nodup := by
  induction depth generalizing location with
  | zero => exact List.nodup_nil
  | succ depth ih =>
      have hnames := nodup_namesIn hdistinct location
      rw [listedBelow]
      split
      · split
        · refine List.nodup_append'.mpr ⟨hnames.map fun _ _ => List.head_eq_of_cons_eq,
            List.nodup_flatMap.mpr ⟨fun name _ => (ih _).map fun _ _ => List.tail_eq_of_cons_eq,
              hnames.imp ?_⟩, ?_⟩
          · -- Different names lead apart.
            intro a b hne names ha hb
            obtain ⟨_, -, rfl⟩ := List.mem_map.mp ha
            obtain ⟨_, -, hsame⟩ := List.mem_map.mp hb
            exact hne (List.head_eq_of_cons_eq hsame).symm
          · -- A single name is not followed by another one.
            intro names hsingle hlonger
            obtain ⟨_, -, rfl⟩ := List.mem_map.mp hsingle
            obtain ⟨name, -, hrest⟩ := List.mem_flatMap.mp hlonger
            obtain ⟨rest, hrest, hsame⟩ := List.mem_map.mp hrest
            exact (mem_listedBelow_iff.mp hrest).1.below (List.tail_eq_of_cons_eq hsame)
        · exact List.nodup_nil
      · exact List.nodup_nil

theorem mem_listing_iff (hlocate : tree.locate folder = .ok location) :
    names ∈ tree.listing folder ↔ tree.Listed location names := by
  rw [listing, hlocate]
  dsimp only
  rw [mem_listedBelow_iff, and_iff_left_of_imp]
  intro h
  have hlength := length_le_depth (by simp [h.below]) h.there
  rw [List.length_append] at hlength
  exact Nat.le_trans (Nat.le_add_left _ _) hlength

theorem nodup_listing (hdistinct : (tree.entries.map Prod.fst).Nodup) (folder : Path) :
    (tree.listing folder).Nodup := by
  rw [listing]
  split
  · exact nodup_listedBelow hdistinct _ _
  · exact List.nodup_nil

/-! ### Discovery -/

/-- A path can be looked at, and so can everything that is listed below it. -/
structure Clear (tree : FileTree) (path : Path) : Prop where
  itself : tree.obstacle? path = none
  below : ∀ location names, tree.locate path = .ok location → tree.Listed location names →
    tree.obstacle? (path.below names) = none

/-- The files that are listed below a folder and are not hidden, sorted by the texts of their
paths. -/
def discovered (tree : FileTree) (folder : Path) : List (List Text) :=
  ((tree.listing folder).filter fun names =>
    tree.isFile (folder.below names) && !isHidden names).mergeSort
      fun a b => Text.precedes (relativeText a) (relativeText b)

theorem clear_iff : tree.Clear folder ↔
    ∀ path ∈ folder :: (tree.listing folder).map folder.below, tree.obstacle? path = none := by
  rw [List.forall_mem_cons, List.forall_mem_map]
  constructor
  · refine fun h => ⟨h.itself, fun names hnames => ?_⟩
    cases hlocate : tree.locate folder with
    | error fault => simp [listing, hlocate] at hnames
    | ok location => exact h.below location names hlocate ((mem_listing_iff hlocate).mp hnames)
  · exact fun h => ⟨h.1, fun location names hlocate hlisted =>
      h.2 names ((mem_listing_iff hlocate).mpr hlisted)⟩

/-- Below a path that leads to no folder there is nothing to look at. -/
theorem clear_of_not_folder {path : Path} (h : tree.isFolder path = false)
    (hitself : tree.obstacle? path = none) : tree.Clear path := by
  refine ⟨hitself, fun location names hlocate hlisted => ?_⟩
  obtain ⟨name, rest, rfl⟩ := List.exists_cons_of_ne_nil hlisted.below
  obtain ⟨⟨rights, hfolder, -⟩, -⟩ := hlisted.passes
  rw [isFolder, find_of_locate hlocate hfolder] at h
  cases h

theorem firstObstacle?_eq_none_iff {paths : List Path} :
    tree.firstObstacle? paths = none ↔ ∀ path ∈ paths, tree.obstacle? path = none := by
  simp [firstObstacle?, List.findSome?_eq_none_iff]

theorem firstObstacle?_cons_of_none {path : Path} (h : tree.obstacle? path = none)
    (rest : List Path) : tree.firstObstacle? (path :: rest) = tree.firstObstacle? rest := by
  rw [firstObstacle?, List.findSome?_cons, h]
  rfl

theorem firstObstacle?_cons_of_some {path : Path} {fault : PathFault}
    (h : tree.obstacle? path = some fault) (rest : List Path) :
    tree.firstObstacle? (path :: rest) = some (fault, path) := by
  rw [firstObstacle?, List.findSome?_cons, h]
  rfl

/-- Discovery succeeds if everything there can be looked at, and not otherwise. -/
theorem discover_eq_ok_iff {found : List (List Text)} :
    tree.discover folder = .ok found ↔ tree.Clear folder ∧ tree.discovered folder = found := by
  rw [clear_iff, ← firstObstacle?_eq_none_iff, discover]
  split
  · rename_i obstacle hobstacle
    simp [hobstacle]
  · rename_i hnone
    simp [hnone, discovered]

theorem discover_eq_error_iff {obstacle : PathFault × Path} :
    tree.discover folder = .error obstacle ↔
      tree.firstObstacle? (folder :: (tree.listing folder).map folder.below) = some obstacle := by
  rw [discover]
  split
  · rename_i found hfound
    rw [hfound, Except.error.injEq, Option.some.injEq]
  · rename_i hnone
    rw [hnone]
    exact iff_of_false nofun nofun

theorem obstacle?_of_discover {fault : PathFault} {place : Path}
    (h : tree.discover folder = .error (fault, place)) :
    tree.obstacle? place = some fault ∧
      (place = folder ∨ ∃ names ∈ tree.listing folder, place = folder.below names) := by
  obtain ⟨path, hpath, hfound⟩ :=
    List.exists_of_findSome?_eq_some (discover_eq_error_iff.mp h)
  obtain ⟨fault, hfault, hsame⟩ := Option.map_eq_some_iff.mp hfound
  cases hsame
  refine ⟨hfault, (List.mem_cons.mp hpath).imp_right fun hpath => ?_⟩
  obtain ⟨names, hnames, rfl⟩ := List.mem_map.mp hpath
  exact ⟨names, hnames, rfl⟩

theorem mem_discovered_iff :
    names ∈ tree.discovered folder ↔
      names ∈ tree.listing folder ∧ tree.isFile (folder.below names) = true ∧
        ∀ name ∈ names, name.head? ≠ some '.' := by
  rw [discovered, List.mem_mergeSort, List.mem_filter, Bool.and_eq_true]
  simp [isHidden]

theorem nodup_discovered (hdistinct : (tree.entries.map Prod.fst).Nodup) (folder : Path) :
    (tree.discovered folder).Nodup :=
  (List.mergeSort_perm _ _).nodup_iff.mpr ((nodup_listing hdistinct folder).filter _)

end FileTree

end ArtifactSearch
