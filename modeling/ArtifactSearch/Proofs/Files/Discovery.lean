import ArtifactSearch.Proofs.Files.Listing

/-!
# ArtifactSearch.Proofs.Files.Discovery

**What discovery finds, in which order, and when it fails.** The files come in the order of their
paths as whole texts, which is not the order of a walk: `a-b/x` comes before `a/x`. In a
well-formed tree different paths have different texts (`relativeText_inj`), because no name holds
a slash. So there is one such order (`sorted_eq_of_perm`), and it does not matter in which one the
system lists the entries: nothing that is read of a tree depends on that (`Relisted`).

With names that the system allows, what stands below a folder is found by its path, unless the
path gets too long or a folder on the way may not be entered (`obstacle?_of_listed`). That says
when discovery succeeds, and which files it finds then (`mem_discovered_iff_of_clear`).
-/

namespace ArtifactSearch

namespace Text

theorem precedes_antisymm {s t : Text} (hst : precedes s t = true) (hts : precedes t s = true) :
    s = t := by
  induction s generalizing t with
  | nil =>
      cases t with
      | nil => rfl
      | cons b t => cases hts
  | cons a s ih =>
      cases t with
      | nil => cases hst
      | cons b t =>
          simp only [precedes, Bool.or_eq_true, Bool.and_eq_true, decide_eq_true_eq,
            beq_iff_eq] at hst hts
          -- Neither code point is smaller, so both are the same and the rest decides.
          obtain ⟨hab, hst⟩ := hst.resolve_left fun hlt =>
            hts.elim (Nat.lt_asymm hlt) fun h => Nat.ne_of_lt hlt h.1.symm
          obtain ⟨-, hts⟩ := hts.resolve_left fun hlt => Nat.ne_of_lt hlt hab.symm
          rw [Char.toNat_inj.mp hab, ih hst hts]

/-- Of two different texts, the one that precedes the other has the smaller code point where
they first differ, or ends there. -/
theorem lex_of_precedes {s t : Text} (h : precedes s t = true) (hne : s ≠ t) :
    List.Lex (· < ·) (s.map Char.toNat) (t.map Char.toNat) := by
  induction s generalizing t with
  | nil =>
      cases t with
      | nil => exact absurd rfl hne
      | cons b t => exact .nil
  | cons a s ih =>
      cases t with
      | nil => cases h
      | cons b t =>
          simp only [precedes, Bool.or_eq_true, Bool.and_eq_true, decide_eq_true_eq,
            beq_iff_eq] at h
          rcases h with hlt | ⟨hab, hst⟩
          · exact .rel hlt
          · have hrest : s ≠ t := fun hst => hne (by rw [Char.toNat_inj.mp hab, hst])
            rw [List.map_cons, List.map_cons, hab]
            exact .cons (ih hst hrest)

end Text

namespace FileTree

/-- A tree as a file system has them: every location is taken once, and no name is empty or
holds a slash. -/
structure WellFormed (tree : FileTree) : Prop where
  distinct : (tree.entries.map Prod.fst).Nodup
  named : ∀ entry ∈ tree.entries, ∀ name ∈ entry.1, name ≠ [] ∧ '/' ∉ name

/-- The same tree with its entries listed in another order. -/
structure Relisted (tree next : FileTree) : Prop where
  current : next.current = tree.current
  entries : next.entries.Perm tree.entries

variable {tree next : FileTree} {location : Location} {folder : Path} {names : List Text}

/-! ### The order of paths -/

theorem pairwise_sorted (paths : List (List Text)) :
    (paths.mergeSort fun a b => Text.precedes (relativeText a) (relativeText b)).Pairwise
      fun a b => Text.precedes (relativeText a) (relativeText b) = true := by
  let le (a b : List Text) : Bool := Text.precedes (relativeText a) (relativeText b)
  have htrans (a b c : List Text) : le a b = true → le b c = true → le a c = true :=
    Text.precedes_trans
  exact List.pairwise_mergeSort htrans (fun a b => Text.precedes_total _ _) paths

/-- The same paths are sorted by their texts into the same list, if different paths have
different texts. -/
theorem sorted_eq_of_perm {found paths : List (List Text)} (hperm : found.Perm paths)
    (hsorted : paths.Pairwise fun a b =>
      Text.precedes (relativeText a) (relativeText b) = true)
    (htexts : ∀ a ∈ paths, ∀ b ∈ paths, relativeText a = relativeText b → a = b) :
    found.mergeSort (fun a b => Text.precedes (relativeText a) (relativeText b)) = paths := by
  have hsame := (List.mergeSort_perm found
    fun a b => Text.precedes (relativeText a) (relativeText b)).trans hperm
  refine List.Perm.eq_of_pairwise (fun a b ha hb hle hge => ?_) (pairwise_sorted found) hsorted
    hsame
  exact htexts a (hsame.mem_iff.mp ha) b hb (Text.precedes_antisymm hle hge)

/-- Different paths without slashes in their names have different texts. -/
theorem relativeText_inj {names others : List Text} (hne : names ≠ []) (hne' : others ≠ [])
    (h : ∀ name ∈ names, '/' ∉ name) (h' : ∀ name ∈ others, '/' ∉ name)
    (htext : relativeText names = relativeText others) : names = others := by
  rw [← Text.split_join hne h, ← Text.split_join hne' h']
  exact congrArg (Text.split '/') htext

/-- What is listed below a location has names that are as the tree has them. -/
theorem Listed.mem_names (h : tree.Listed location names) {name : Text} (hname : name ∈ names) :
    ∃ entry ∈ tree.entries, name ∈ entry.1 := by
  obtain ⟨entry, hmem, hplace⟩ :=
    List.mem_map.mp ((isSome_entryAt?_iff (by simp [h.below])).mp h.there)
  exact ⟨entry, hmem, hplace ▸ List.mem_append_right _ hname⟩

/-- Different things that are listed have paths of different texts. -/
theorem WellFormed.relativeText_inj (hwell : tree.WellFormed) :
    ∀ a ∈ tree.listing folder, ∀ b ∈ tree.listing folder,
      relativeText a = relativeText b → a = b := by
  intro a ha b hb
  cases hlocate : tree.locate folder with
  | error fault => simp [listing, hlocate] at ha
  | ok location =>
      have hnoSlash : ∀ names, tree.Listed location names → ∀ name ∈ names, '/' ∉ name := by
        intro names hlisted name hname
        obtain ⟨entry, hmem, hname⟩ := hlisted.mem_names hname
        exact (hwell.named entry hmem name hname).2
      rw [mem_listing_iff hlocate] at ha hb
      exact FileTree.relativeText_inj ha.below hb.below (hnoSlash a ha) (hnoSlash b hb)

/-! ### Listing in another order -/

theorem Relisted.distinct (h : tree.Relisted next) (hwell : tree.WellFormed) :
    (next.entries.map Prod.fst).Nodup :=
  (h.entries.map Prod.fst).nodup_iff.mpr hwell.distinct

theorem Relisted.entryAt? (h : tree.Relisted next) (hwell : tree.WellFormed)
    (location : Location) : next.entryAt? location = tree.entryAt? location := by
  by_cases hne : location = []
  · rw [hne]
    rfl
  · refine Option.ext fun entry => ?_
    rw [entryAt?_eq_some_iff (h.distinct hwell) hne, entryAt?_eq_some_iff hwell.distinct hne,
      h.entries.mem_iff]

/-- Only what stands where counts for following names. -/
theorem follow_congr (h : ∀ location, next.entryAt? location = tree.entryAt? location)
    (location : Location) (names : List Text) :
    next.follow location names = tree.follow location names := by
  induction names generalizing location with
  | nil => rfl
  | cons name rest ih => simp only [follow, h, ih]

theorem Relisted.locate (h : tree.Relisted next) (hwell : tree.WellFormed) (path : Path) :
    next.locate path = tree.locate path := by
  simp only [FileTree.locate, start, h.current, follow_congr (h.entryAt? hwell)]

theorem Relisted.find (h : tree.Relisted next) (hwell : tree.WellFormed) (path : Path) :
    next.find path = tree.find path := by
  simp only [FileTree.find, h.locate hwell, h.entryAt? hwell]

theorem Relisted.read (h : tree.Relisted next) (hwell : tree.WellFormed) (path : Path) :
    next.read path = tree.read path := by
  simp only [FileTree.read, h.find hwell]

theorem passes_congr (h : ∀ location, next.entryAt? location = tree.entryAt? location)
    (right : Rights → Bool) (location : Location) (names : List Text) :
    next.Passes right location names ↔ tree.Passes right location names := by
  induction names generalizing location with
  | nil => exact Iff.rfl
  | cons name rest ih => rw [Passes, Passes, h, ih]

theorem Relisted.listed_iff (h : tree.Relisted next) (hwell : tree.WellFormed) :
    next.Listed location names ↔ tree.Listed location names := by
  have hentry := h.entryAt? hwell
  constructor
  · exact fun hlisted => ⟨hlisted.below, hentry _ ▸ hlisted.there,
      (passes_congr hentry _ _ _).mp hlisted.passes⟩
  · exact fun hlisted => ⟨hlisted.below, (hentry _).symm ▸ hlisted.there,
      (passes_congr hentry _ _ _).mpr hlisted.passes⟩

theorem Relisted.listing (h : tree.Relisted next) (hwell : tree.WellFormed) (folder : Path) :
    (next.listing folder).Perm (tree.listing folder) := by
  cases hlocate : tree.locate folder with
  | error fault =>
      rw [FileTree.listing, FileTree.listing, h.locate hwell, hlocate]
  | ok location =>
      rw [List.perm_ext_iff_of_nodup (nodup_listing (h.distinct hwell) folder)
        (nodup_listing hwell.distinct folder)]
      intro names
      rw [mem_listing_iff hlocate, mem_listing_iff ((h.locate hwell folder).trans hlocate),
        h.listed_iff hwell]

theorem Relisted.obstacle? (h : tree.Relisted next) (hwell : tree.WellFormed) (path : Path) :
    next.obstacle? path = tree.obstacle? path := by
  simp only [FileTree.obstacle?, h.find hwell]

theorem Relisted.discovered (h : tree.Relisted next) (hwell : tree.WellFormed) (folder : Path) :
    next.discovered folder = tree.discovered folder := by
  have hperm : ((next.listing folder).filter fun names =>
      next.isFile (folder.below names) && !isHidden names).Perm (tree.discovered folder) := by
    simp only [isFile, h.find hwell]
    exact ((h.listing hwell folder).filter _).trans (List.mergeSort_perm _ _).symm
  exact sorted_eq_of_perm hperm (pairwise_sorted _) fun a ha b hb =>
    hwell.relativeText_inj a (mem_discovered_iff.mp ha).1 b (mem_discovered_iff.mp hb).1

theorem Relisted.clear (h : tree.Relisted next) (hwell : tree.WellFormed)
    (hclear : tree.Clear folder) : next.Clear folder := by
  refine ⟨(h.obstacle? hwell folder).trans hclear.itself, fun location names hlocate hlisted => ?_⟩
  rw [h.obstacle? hwell]
  exact hclear.below location names ((h.locate hwell folder).symm.trans hlocate)
    ((h.listed_iff hwell).mp hlisted)

/-- What is discovered does not depend on how the tree is listed. What it fails at does. -/
theorem Relisted.discover (h : tree.Relisted next) (hwell : tree.WellFormed)
    {found : List (List Text)} (hfound : tree.discover folder = .ok found) :
    next.discover folder = .ok found := by
  obtain ⟨hclear, rfl⟩ := discover_eq_ok_iff.mp hfound
  exact discover_eq_ok_iff.mpr ⟨h.clear hwell hclear, h.discovered hwell folder⟩

/-! ### Exactness -/

/-- A well-formed tree with names that the system allows. -/
structure Proper (tree : FileTree) : Prop extends tree.WellFormed where
  allowed : ∀ entry ∈ tree.entries, ∀ name ∈ entry.1, IsName name

theorem Listed.isName (h : tree.Listed location names) (hproper : tree.Proper) :
    ∀ name ∈ names, IsName name := by
  intro name hname
  obtain ⟨entry, hmem, hname⟩ := h.mem_names hname
  exact hproper.allowed entry hmem name hname

theorem obstacle?_of_listed (hproper : tree.Proper) (hlocate : tree.locate folder = .ok location)
    (h : tree.Listed location names) :
    tree.obstacle? (folder.below names) = none ↔
      byteLength (folder.below names).toText < 4096 ∧
        tree.Passes Rights.enters location names := by
  obtain ⟨entry, hentry⟩ := Option.isSome_iff_exists.mp h.there
  exact obstacle?_below_eq_none_iff hlocate (h.isName hproper) h.below hentry h.passes

/-- Whatever is listed below a clear folder is found by its path. -/
theorem Clear.find_below (hclear : tree.Clear folder) (hproper : tree.Proper)
    (hlocate : tree.locate folder = .ok location) (hlisted : tree.Listed location names)
    {entry : Entry} (hentry : tree.entryAt? (location ++ names) = some entry) :
    tree.find (folder.below names) = .ok entry := by
  obtain ⟨hshort, henters⟩ := (obstacle?_of_listed hproper hlocate hlisted).mp
    (hclear.below location names hlocate hlisted)
  exact FileTree.find_below hlocate (hlisted.isName hproper) hlisted.below hentry hshort henters

/-- What is found below a clear folder are the files that are listed and not hidden. -/
theorem mem_discovered_iff_of_clear (hproper : tree.Proper)
    (hlocate : tree.locate folder = .ok location) {rights : Rights}
    (hfolder : tree.entryAt? location = some (.folder rights)) (hclear : tree.Clear folder) :
    names ∈ tree.discovered folder ↔
      (∃ bytes rights, tree.entryAt? (location ++ names) = some (.file bytes rights)) ∧
        tree.Passes Rights.reads location names ∧ ∀ name ∈ names, name.head? ≠ some '.' := by
  rw [mem_discovered_iff, mem_listing_iff hlocate]
  constructor
  · rintro ⟨hlisted, hfile, hvisible⟩
    refine ⟨?_, hlisted.passes, hvisible⟩
    obtain ⟨entry, hentry⟩ := Option.isSome_iff_exists.mp hlisted.there
    rw [isFile, hclear.find_below hproper hlocate hlisted hentry] at hfile
    cases entry with
    | folder rights => cases hfile
    | file bytes rights => exact ⟨bytes, rights, hentry⟩
  · rintro ⟨⟨bytes, rights', hfile⟩, hpasses, hvisible⟩
    -- The folder itself is no file.
    have hne : names ≠ [] := by
      rintro rfl
      rw [List.append_nil, hfolder] at hfile
      cases hfile
    have hlisted : tree.Listed location names := ⟨hne, by rw [hfile]; rfl, hpasses⟩
    exact ⟨hlisted, by rw [isFile, hclear.find_below hproper hlocate hlisted hfile], hvisible⟩

/-- The texts of the paths that are found strictly increase. -/
theorem pairwise_lex_discovered (hwell : tree.WellFormed) (folder : Path) :
    (tree.discovered folder).Pairwise fun a b =>
      List.Lex (· < ·) ((relativeText a).map Char.toNat) ((relativeText b).map Char.toNat) := by
  have hsorted : (tree.discovered folder).Pairwise fun a b =>
      Text.precedes (relativeText a) (relativeText b) = true := pairwise_sorted _
  refine (hsorted.and (nodup_discovered hwell.distinct folder)).imp_of_mem
    fun {a b} ha hb ⟨hle, hab⟩ => ?_
  refine Text.lex_of_precedes hle fun htext => hab ?_
  exact hwell.relativeText_inj a (mem_discovered_iff.mp ha).1 b (mem_discovered_iff.mp hb).1 htext

/-- **Discovery is exact.** It looks at everything that is listed below a folder, and succeeds
exactly if no path there is too long and every folder on the way may be entered; else it fails at
something that cannot be looked at. If it succeeds, the files it finds are those below the
folder, at any depth, but those behind a folder that may not be listed and those with a name that
starts with a dot on the way from the folder; what the folder itself is called does not count.
None comes twice, and the texts of their paths, as lists of code points, strictly increase. The
order in which the system lists the entries does not matter. -/
theorem discover_exact (hproper : tree.Proper) {rights : Rights}
    (hfolder : tree.find folder = .ok (.folder rights)) :
    ∃ location, tree.locate folder = .ok location ∧
      ((∃ found, tree.discover folder = .ok found) ↔
        ∀ names, tree.Listed location names →
          byteLength (folder.below names).toText < 4096 ∧
            tree.Passes Rights.enters location names) ∧
      (∀ fault place, tree.discover folder = .error (fault, place) →
        tree.obstacle? place = some fault ∧
          ∃ names, tree.Listed location names ∧ place = folder.below names) ∧
      ∀ found, tree.discover folder = .ok found →
        (∀ names, names ∈ found ↔
          (∃ bytes rights, tree.entryAt? (location ++ names) = some (.file bytes rights)) ∧
            tree.Passes Rights.reads location names ∧ ∀ name ∈ names, name.head? ≠ some '.') ∧
        found.Nodup ∧
        found.Pairwise (fun a b => List.Lex (· < ·) ((relativeText a).map Char.toNat)
          ((relativeText b).map Char.toNat)) ∧
        ∀ next, tree.Relisted next → next.discover folder = .ok found := by
  obtain ⟨location, hlocate, hentry⟩ := exists_locate_of_find hfolder
  refine ⟨location, hlocate, ⟨?_, fun h => ?_⟩, fun fault place h => ?_, fun found hfound => ?_⟩
  · rintro ⟨found, hfound⟩ names hlisted
    have hclear := (discover_eq_ok_iff.mp hfound).1
    exact (obstacle?_of_listed hproper hlocate hlisted).mp
      (hclear.below location names hlocate hlisted)
  · refine ⟨_, discover_eq_ok_iff.mpr ⟨⟨obstacle?_of_find hfolder, ?_⟩, rfl⟩⟩
    intro place names hplace hlisted
    cases hlocate.symm.trans hplace
    exact (obstacle?_of_listed hproper hlocate hlisted).mpr (h names hlisted)
  · obtain ⟨hobstacle, rfl | ⟨names, hnames, rfl⟩⟩ := obstacle?_of_discover h
    · rw [obstacle?_of_find hfolder] at hobstacle
      cases hobstacle
    · exact ⟨hobstacle, names, (mem_listing_iff hlocate).mp hnames, rfl⟩
  · obtain ⟨hclear, rfl⟩ := discover_eq_ok_iff.mp hfound
    exact ⟨fun names => mem_discovered_iff_of_clear hproper hlocate hentry hclear,
      nodup_discovered hproper.distinct folder,
      pairwise_lex_discovered hproper.toWellFormed folder,
      fun next hnext => hnext.discover hproper.toWellFormed hfound⟩

/-- The folder has a dot, and so have a folder and a file in it; another one may not be listed.
The tree lists the files neither in the order of a walk nor in that of discovery. -/
theorem discover_exact_dotted :
    let barred : Rights := ⟨false, true, true⟩
    let tree : FileTree := ⟨[([".in".toList], .folder), ([".in".toList, "a".toList], .folder),
      ([".in".toList, "a".toList, "x".toList], .file [1]),
      ([".in".toList, "a".toList, ".y".toList], .file [2]),
      ([".in".toList, "a-b".toList], .folder),
      ([".in".toList, "a-b".toList, "x".toList], .file [3]),
      ([".in".toList, ".b".toList], .folder),
      ([".in".toList, ".b".toList, "x".toList], .file [4]),
      ([".in".toList, "c".toList], .folder barred),
      ([".in".toList, "c".toList, "x".toList], .file [5])], []⟩
    let folder : Path := .relative [".in".toList]
    tree.Proper ∧ tree.find folder = .ok .folder ∧
      tree.discover folder = .ok [["a-b".toList, "x".toList], ["a".toList, "x".toList]] := by
  intro barred tree folder
  have hproper : tree.Proper := ⟨⟨by decide, by decide⟩, by decide +kernel⟩
  have hfolder : tree.find folder = .ok .folder := by decide +kernel
  have hclear : tree.Clear folder := clear_iff.mpr (by decide +kernel)
  obtain ⟨location, -, -, -, hfound⟩ := discover_exact hproper hfolder
  obtain ⟨-, -, -, hrelisted⟩ := hfound _ (discover_eq_ok_iff.mpr ⟨hclear, rfl⟩)
  -- The same entries, with the files listed as they are to be discovered.
  let sorted : FileTree := ⟨[([".in".toList, "a-b".toList], .folder),
    ([".in".toList, "a-b".toList, "x".toList], .file [3]),
    ([".in".toList], .folder), ([".in".toList, "a".toList], .folder),
    ([".in".toList, "a".toList, "x".toList], .file [1]),
    ([".in".toList, "a".toList, ".y".toList], .file [2]),
    ([".in".toList, ".b".toList], .folder),
    ([".in".toList, ".b".toList, "x".toList], .file [4]),
    ([".in".toList, "c".toList], .folder barred),
    ([".in".toList, "c".toList, "x".toList], .file [5])], []⟩
  have hsorted : tree.Relisted sorted := ⟨rfl, by decide +kernel⟩
  have hlisted : (sorted.listing folder).filter (fun names =>
        sorted.isFile (folder.below names) && !isHidden names)
      = [["a-b".toList, "x".toList], ["a".toList, "x".toList]] := by decide +kernel
  obtain ⟨-, hsame⟩ := discover_eq_ok_iff.mp (hrelisted sorted hsorted)
  refine ⟨hproper, hfolder, discover_eq_ok_iff.mpr ⟨hclear, ?_⟩⟩
  rw [← hsame, discovered, hlisted, List.mergeSort_of_pairwise (by decide)]

/-! ### A path that gets too long -/

/-- The way to a name, going in there and back out so many times before. -/
def detour (name : Text) (n : Nat) : List Text :=
  (List.replicate n [name, ['.', '.']]).flatten ++ [name]

theorem detour_succ (name : Text) (n : Nat) :
    detour name (n + 1) = name :: ['.', '.'] :: detour name n := by
  rw [detour, List.replicate_succ, List.flatten_cons]
  rfl

theorem follow_detour {name : Text} {rights : Rights} (hname : IsName name)
    (hfolder : tree.entryAt? [name] = some (.folder rights)) (henters : rights.enters = true)
    (n : Nat) : tree.follow [] (detour name n) = .ok [name] := by
  have hthere : (tree.entryAt? ([] ++ [name])).isSome := by
    rw [List.nil_append, hfolder, Option.isSome_some]
  have hdown : ∀ rest, tree.follow [] (name :: rest) = tree.follow [name] rest :=
    fun rest => (follow_cons hname (show tree.entryAt? [] = some .folder from rfl) hthere
      rest).trans (if_pos rfl)
  induction n with
  | zero => exact hdown []
  | succ n ih =>
      rw [detour_succ, hdown, follow, hfolder]
      dsimp only
      rw [henters, if_neg (by decide), if_neg (by decide), if_pos rfl]
      exact ih

theorem byteLength_detour (name : Text) (n : Nat) (names : List Text) :
    byteLength (Text.join ['/'] (detour name n ++ names))
      = n * (byteLength name + 4) + byteLength (Text.join ['/'] (name :: names)) := by
  have hslash : byteLength ['/'] = 1 := by decide +kernel
  have hdots : byteLength ['.', '.'] = 2 := by decide +kernel
  induction n with
  | zero => rw [Nat.zero_mul, Nat.zero_add]; rfl
  | succ n ih =>
      obtain ⟨first, rest, hrest⟩ := List.exists_cons_of_ne_nil
        (show detour name n ++ names ≠ [] by simp [detour])
      rw [hrest] at ih
      rw [detour_succ, List.cons_append, List.cons_append, hrest, Text.join_cons_cons,
        Text.join_cons_cons, byteLength_append, byteLength_append, byteLength_append,
        byteLength_append, ih, hslash, hdots, Nat.succ_mul]
      omega

theorem noZero_detour {name : Text} (h : '\x00' ∉ name) (n : Nat) :
    ∀ step ∈ detour name n, '\x00' ∉ step := by
  induction n with
  | zero => simpa [detour] using h
  | succ n ih =>
      rw [detour_succ, List.forall_mem_cons, List.forall_mem_cons]
      exact ⟨h, by decide, ih⟩

/-- A file whose path gets too long behind that of the folder keeps anything from being found,
although the folder itself is found and the file stands in it. -/
theorem discover_fails_of_long_path :
    let outer : Text := List.replicate 250 'd'
    let inner : Text := List.replicate 200 'a'
    let tree : FileTree := ⟨[([outer], .folder), ([outer, inner], .file [0x78])], []⟩
    let folder : Path := .relative (detour outer 15)
    tree.Proper ∧ tree.find folder = .ok .folder ∧ tree.locate folder = .ok [outer] ∧
      tree.entryAt? [outer, inner] = some (.file [0x78]) ∧
      tree.discover folder = .error (.tooLong, folder.below [inner]) := by
  intro outer inner tree folder
  have houter : tree.entryAt? [outer] = some .folder := by decide +kernel
  have hinner : tree.entryAt? [outer, inner] = some (.file [0x78]) := by decide +kernel
  have hnames : IsName outer ∧ IsName inner := by decide +kernel
  have hlength : byteLength outer = 250 ∧ byteLength (Text.join ['/'] [outer, inner]) = 451 := by
    decide +kernel
  have hzero : '\x00' ∉ folder.toText :=
    Path.noZero_below (show '\x00' ∉ (Path.relative []).toText by decide)
      (noZero_detour hnames.1.noZero 15)
  have hlong : byteLength (folder.below [inner]).toText = 15 * (250 + 4) + 451 := by
    rw [← hlength.1, ← hlength.2]
    exact byteLength_detour outer 15 [inner]
  have hshort : byteLength folder.toText = 15 * (250 + 4) + 250 := by
    have h := byteLength_detour outer 15 []
    rw [List.append_nil, Text.join_singleton, hlength.1] at h
    exact h
  have hfault : fault? folder = none := by
    rw [fault?, if_neg (by simpa using hzero), if_neg (by omega)]
  have hlocate : tree.locate folder = .ok [outer] :=
    locate_eq_ok_iff.mpr ⟨hfault, follow_detour hnames.1 houter rfl 15⟩
  have hfind : tree.find folder = .ok .folder := find_of_locate hlocate houter
  have hbelow : tree.obstacle? (folder.below [inner]) = some .tooLong := by
    have hfault := fault?_below hfault (List.forall_mem_singleton.mpr hnames.2)
    rw [if_pos (by omega)] at hfault
    rw [obstacle?, find, locate, hfault]
    rfl
  have hlisting : tree.listing folder = [[inner]] := by
    rw [listing, hlocate]
    decide +kernel
  have hfirst : tree.firstObstacle? (folder :: (tree.listing folder).map folder.below)
      = some (.tooLong, folder.below [inner]) := by
    rw [hlisting, List.map_singleton, firstObstacle?_cons_of_none (obstacle?_of_find hfind),
      firstObstacle?_cons_of_some hbelow]
  refine ⟨⟨⟨by decide +kernel, by decide +kernel⟩, by decide +kernel⟩, hfind, hlocate, hinner, ?_⟩
  exact discover_eq_error_iff.mpr hfirst

end FileTree

end ArtifactSearch
