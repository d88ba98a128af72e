import ArtifactSearch.Load
import ArtifactSearch.Proofs.Content
import ArtifactSearch.Proofs.Files.Listing
import ArtifactSearch.Proofs.Store.Intake

/-!
# ArtifactSearch.Proofs.Load

**What loading comes to.** The files that have a text are taken in one after
another, and every other file is reported; so it is as long as no file `Stops` the
loading, which is not the same as having no text. A file stops it by a zero
character in its path or by wrong deflated data, and a path by not being `Clear`: it
cannot be looked at, or something below it cannot.

One file makes one step of the progress (`step_of_text`, `step_of_skipped`), and
`run_of_not_stops` is the induction over all of them. `run_append` and
`run_of_stops` say how far the loading comes otherwise: up to the first file that
stops it.
-/

namespace ArtifactSearch

/-- A traversal succeeds if it does at every member. -/
theorem mapM_eq_ok_iff {α β ε : Type} {f : α → Except ε β} {xs : List α} {ys : List β} :
    xs.mapM f = .ok ys ↔ List.Forall₂ (fun x y => f x = .ok y) xs ys := by
  induction xs generalizing ys with
  | nil => cases ys <;> simp [pure, Except.pure]
  | cons x rest ih =>
      rw [List.mapM_cons]
      cases hx : f x with
      | error e => cases ys <;> simp [bind, Except.bind, hx]
      | ok y =>
          cases hrest : rest.mapM f with
          | error e => cases ys <;> simp [bind, Except.bind, hx, ← ih, hrest]
          | ok later => cases ys <;> simp [bind, Except.bind, pure, Except.pure, hx, ← ih, hrest]

theorem exists_ok_of_mapM {α β ε : Type} {f : α → Except ε β} {xs : List α} {ys : List β}
    (h : xs.mapM f = .ok ys) {x : α} (hx : x ∈ xs) : ∃ y, f x = .ok y := by
  have hall := mapM_eq_ok_iff.mp h
  induction hall with
  | nil => cases hx
  | cons hhead _ ih =>
      rcases List.mem_cons.mp hx with rfl | hrest
      · exact ⟨_, hhead⟩
      · exact ih (mapM_eq_ok_iff.mpr ‹_›) hrest

/-- A traversal fails as it does at some member. -/
theorem exists_error_of_mapM {α β ε : Type} {f : α → Except ε β} {xs : List α} {e : ε}
    (h : xs.mapM f = .error e) : ∃ x ∈ xs, f x = .error e := by
  induction xs with
  | nil => cases h
  | cons x rest ih =>
      rw [List.mapM_cons] at h
      cases hx : f x with
      | error e' =>
          rw [hx] at h
          cases h
          exact ⟨x, List.mem_cons_self, hx⟩
      | ok y =>
          rw [hx] at h
          cases hrest : rest.mapM f with
          | ok later => simp [bind, Except.bind, pure, Except.pure, hrest] at h
          | error e' =>
              have he : e' = e := by simpa [bind, Except.bind, hrest] using h
              obtain ⟨x', hmem, hx'⟩ := ih (he ▸ hrest)
              exact ⟨x', List.mem_cons_of_mem _ hmem, hx'⟩

theorem exists_first {α : Type} {p : α → Prop} {xs : List α} (h : ∃ x ∈ xs, p x) :
    ∃ before x later, xs = before ++ x :: later ∧ p x ∧ ∀ y ∈ before, ¬ p y := by
  induction xs with
  | nil => simp at h
  | cons x rest ih =>
      by_cases hx : p x
      · exact ⟨[], x, rest, rfl, hx, nofun⟩
      · rw [List.exists_mem_cons_iff] at h
        obtain ⟨before, y, later, rfl, hy, hbefore⟩ := ih (h.resolve_left hx)
        exact ⟨x :: before, y, later, rfl, hy, List.forall_mem_cons.mpr ⟨hx, hbefore⟩⟩

/-- Whether a notice says that a file was skipped. -/
def Notice.isWarning : Notice → Bool
  | .skipped _ _ => true
  | _ => false

namespace Load

variable {tree : FileTree}

/-! ### Files -/

/-- The name and the text that a file is taken in with. -/
def text? (tree : FileTree) (path : Path) : Option (Text × Text) := (readText tree path).toOption

/-- What is told of a file without a text. -/
def warning? (tree : FileTree) (path : Path) : Option Notice :=
  match readText tree path with
  | .ok _ => none
  | .error error => some (.skipped path.name error.message)

/-- The file at a path ends the loading. -/
def Stops (tree : FileTree) (path : Path) : Prop :=
  tree.read path = .error .zeroCharacter ∨
    ∃ raw fault, tree.read path = .ok raw ∧ Content.Corrupt path.name raw fault

theorem readText_of_read {path : Path} {raw : Bytes} (h : tree.read path = .ok raw) :
    readText tree path = (Content.decode path.name raw).mapError .content := by
  rw [readText, h]

theorem readText_of_fault {path : Path} {fault : PathFault} (h : tree.read path = .error fault) :
    readText tree path = .error (.path fault path) := by
  rw [readText, h]

/-- The files with a text are those that can be read, and whose bytes have one. -/
theorem text?_eq_some_iff {path : Path} {name text : Text} :
    text? tree path = some (name, text) ↔
      ∃ raw, tree.read path = .ok raw ∧ Content.HasText path.name raw name text := by
  unfold text?
  cases hread : tree.read path with
  | error fault =>
      rw [readText_of_fault hread]
      exact iff_of_false nofun nofun
  | ok raw =>
      rw [readText_of_read hread]
      simp only [Except.ok.injEq, exists_eq_left', ← Content.decode_eq_ok_iff]
      cases Content.decode path.name raw with
      | error error => exact iff_of_false nofun nofun
      | ok result => simp [Except.mapError, Except.toOption]

/-- Every file without a text has a warning. -/
theorem text?_eq_none_iff {path : Path} :
    text? tree path = none ↔ ∃ reason, warning? tree path = some (.skipped path.name reason) := by
  unfold text? warning?
  cases readText tree path with
  | ok result => exact iff_of_false nofun nofun
  | error error => exact iff_of_true rfl ⟨_, rfl⟩

theorem stops_iff_of_read {path : Path} {raw : Bytes} (h : tree.read path = .ok raw) :
    Stops tree path ↔ ∃ fault, Content.decode path.name raw = .error (.corrupt fault) := by
  simp [Stops, h, Content.decode_eq_corrupt_iff]

/-- A file has a text, or is skipped, or stops the loading. -/
theorem readText_cases (tree : FileTree) (path : Path) :
    (∃ name text, readText tree path = .ok (name, text) ∧ ¬ Stops tree path) ∨
      (∃ error, readText tree path = .error error ∧ error.isSkipped = true ∧ ¬ Stops tree path) ∨
      ∃ error, readText tree path = .error error ∧ error.isSkipped = false ∧ Stops tree path := by
  cases hread : tree.read path with
  | error fault =>
      rw [readText_of_fault hread]
      cases fault with
      | zeroCharacter => exact .inr (.inr ⟨_, rfl, rfl, .inl hread⟩)
      | _ => exact .inr (.inl ⟨_, rfl, rfl, by simp [Stops, hread]⟩)
  | ok raw =>
      rw [readText_of_read hread, stops_iff_of_read hread]
      rcases Content.decode_cases path.name raw with
        ⟨name, text, h⟩ | ⟨name, cause, h⟩ | ⟨fault, -, h⟩
      · rw [h]
        exact .inl ⟨name, text, rfl, nofun⟩
      · rw [h]
        exact .inr (.inl ⟨_, rfl, rfl, nofun⟩)
      · rw [h]
        exact .inr (.inr ⟨_, rfl, rfl, fault, rfl⟩)

/-! ### One file -/

section Run

variable (count position : Nat) (progress : Progress)

theorem step_of_text {path : Path} {name text : Text} (h : readText tree path = .ok (name, text)) :
    ∃ notice, notice.isWarning = false ∧
      step tree count position progress path =
        .ok ⟨progress.store.ingest name text,
          progress.keys ++ [(progress.store.ingest name text).keyFor name],
          progress.notices ++ [notice]⟩ := by
  rw [step, h]
  exact ⟨_, rfl, rfl⟩

theorem step_of_skipped {path : Path} {error : LoadError} (h : readText tree path = .error error)
    (hskipped : error.isSkipped = true) :
    step tree count position progress path =
      .ok { progress with notices := progress.notices ++ [.skipped path.name error.message] } := by
  rw [step, h]
  exact if_pos hskipped

theorem step_of_stops {path : Path} (h : Stops tree path) :
    ∃ error, step tree count position progress path = .error error := by
  rcases readText_cases tree path with ⟨_, _, _, hnot⟩ | ⟨_, _, _, hnot⟩ | ⟨error, hread, hstop, -⟩
  · exact absurd h hnot
  · exact absurd h hnot
  · refine ⟨error, ?_⟩
    rw [step, hread]
    exact if_neg (by simp [hstop])

/-! ### All files -/

/-- As long as no file stops the loading, every file with a text is taken in, and
every other one is reported. -/
theorem run_of_not_stops (hwf : progress.store.indexes.WellFormed) {files : List Path}
    (h : ∀ file ∈ files, ¬ Stops tree file) :
    ∃ last, run tree count position progress files = (last, none) ∧
      last.store = progress.store.applyAll (Store.intake (files.filterMap (text? tree))) ∧
      (∃ keys, last.keys = progress.keys ++ keys ∧
        progress.store.Placed (files.filterMap (text? tree)) keys) ∧
      last.notices.filter Notice.isWarning
        = progress.notices.filter Notice.isWarning ++ files.filterMap (warning? tree) := by
  induction files generalizing progress position with
  | nil => exact ⟨progress, rfl, rfl, ⟨[], by simp, .nil _⟩, by simp⟩
  | cons file rest ih =>
      obtain ⟨hfile, hrest⟩ := List.forall_mem_cons.mp h
      rcases readText_cases tree file with
        ⟨name, text, hread, -⟩ | ⟨error, hread, hskipped, -⟩ | ⟨_, _, _, hstop⟩
      · obtain ⟨notice, hnotice, hstep⟩ := step_of_text count position progress hread
        have htext : text? tree file = some (name, text) := by rw [text?, hread]; rfl
        have hwarning : warning? tree file = none := by rw [warning?, hread]
        obtain ⟨last, hrun, hstore, ⟨keys, hkeys, hplaced⟩, hnotices⟩ :=
          ih (position + 1) ⟨_, _, _⟩ (Store.wellFormed_ingest hwf name text) hrest
        rw [run, hstep, List.filterMap_cons_some htext, List.filterMap_cons_none hwarning]
        refine ⟨last, hrun, hstore, ⟨_, ?_, hplaced.ingest hwf⟩, ?_⟩
        · rw [hkeys, List.append_assoc, List.singleton_append]
        · rw [hnotices, List.filter_append, List.filter_cons_of_neg (by simp [hnotice]),
            List.filter_nil, List.append_nil]
      · have htext : text? tree file = none := by rw [text?, hread]; rfl
        have hwarning : warning? tree file = some (.skipped file.name error.message) := by
          rw [warning?, hread]
        obtain ⟨last, hrun, hstore, hkeys, hnotices⟩ :=
          ih (position + 1)
            { progress with notices := progress.notices ++ [.skipped file.name error.message] }
            hwf hrest
        rw [run, step_of_skipped count position progress hread hskipped, List.filterMap_cons_none htext,
          List.filterMap_cons_some hwarning]
        refine ⟨last, hrun, hstore, hkeys, ?_⟩
        rw [hnotices, List.filter_append, List.append_assoc]
        rfl
      · exact absurd hstop hfile

theorem run_append {before : List Path} (later : List Path) {middle : Progress}
    (h : run tree count position progress before = (middle, none)) :
    ∃ next, run tree count position progress (before ++ later)
      = run tree count next middle later := by
  induction before generalizing progress position with
  | nil =>
      cases h
      exact ⟨position, rfl⟩
  | cons file rest ih =>
      rw [run] at h
      rw [List.cons_append, run]
      cases hstep : step tree count position progress file with
      | error error =>
          rw [hstep] at h
          cases h
      | ok after =>
          rw [hstep] at h
          exact ih (position + 1) after h

/-- The loading comes as far as the first file that stops it. -/
theorem run_of_stops (hwf : progress.store.indexes.WellFormed) {before later : List Path}
    {file : Path} (hbefore : ∀ file ∈ before, ¬ Stops tree file) (hfile : Stops tree file) :
    ∃ last error, run tree count position progress (before ++ file :: later) = (last, some error) ∧
      last.store = progress.store.applyAll (Store.intake (before.filterMap (text? tree))) := by
  obtain ⟨middle, hrun, hstore, -, -⟩ :=
    run_of_not_stops count position progress hwf hbefore
  obtain ⟨next, happend⟩ := run_append count position progress (file :: later) hrun
  obtain ⟨error, hstep⟩ := step_of_stops count next middle hfile
  refine ⟨middle, error, ?_, hstore⟩
  rw [happend, run, hstep]

end Run

/-! ### Folders -/

/-- The files that a path stands for: those discovered in a folder, else the path
itself. -/
def filesOf (tree : FileTree) (path : Path) : List Path :=
  if tree.isFolder path then ((tree.discover path).toOption.getD []).map path.below else [path]

theorem expandOne_eq_ok_iff {path : Path} {files : List Path} :
    expandOne tree path = .ok files ↔ tree.Clear path ∧ filesOf tree path = files := by
  unfold expandOne filesOf
  cases hitself : tree.obstacle? path with
  | some fault =>
      refine iff_of_false nofun fun h => ?_
      rw [h.1.itself] at hitself
      cases hitself
  | none =>
      dsimp only
      cases hfolder : tree.isFolder path with
      | false => simp [FileTree.clear_of_not_folder hfolder hitself]
      | true =>
          rw [if_pos rfl, if_pos rfl]
          cases hfound : tree.discover path with
          | ok found => simp [(FileTree.discover_eq_ok_iff.mp hfound).1, Except.toOption]
          | error obstacle =>
              refine iff_of_false nofun fun h => ?_
              rw [FileTree.discover_eq_ok_iff.mpr ⟨h.1, rfl⟩] at hfound
              cases hfound

theorem expand_eq {paths : List Path} (h : ∀ path ∈ paths, tree.Clear path) :
    expand tree paths = .ok (paths.flatMap (filesOf tree)) := by
  have hall : paths.mapM (expandOne tree) = .ok (paths.map (filesOf tree)) := by
    rw [mapM_eq_ok_iff, List.forall₂_map_right_iff, List.forall₂_same]
    exact fun path hpath => expandOne_eq_ok_iff.mpr ⟨h path hpath, rfl⟩
  rw [expand, hall, List.flatMap_def]
  rfl

theorem expand_of_not_clear {paths : List Path} {path : Path} (hpath : path ∈ paths)
    (h : ¬ tree.Clear path) : ∃ error, expand tree paths = .error error := by
  cases hall : paths.mapM (expandOne tree) with
  | error error => exact ⟨error, by rw [expand, hall]; rfl⟩
  | ok found =>
      -- Then the path would have been expanded too.
      obtain ⟨files, hfiles⟩ := exists_ok_of_mapM hall hpath
      exact absurd (expandOne_eq_ok_iff.mp hfiles).1 h

/-! ### Loading -/

/-- All files are dealt with: those with a text are taken in one after another, in
their order, and each of the others is reported. -/
structure Complete (tree : FileTree) (store : Store) (files : List Path) (last : Progress) :
    Prop where
  taken : last.store = store.applyAll (Store.intake (files.filterMap (text? tree)))
  placed : store.Placed (files.filterMap (text? tree)) last.keys
  reported : last.notices.filter Notice.isWarning = files.filterMap (warning? tree)

theorem complete_close {store : Store} {files : List Path} {last : Progress}
    (h : Complete tree store files last) (count : Nat) :
    Complete tree store files (close count last) := by
  unfold close
  split
  · exact h
  · refine ⟨h.taken, h.placed, ?_⟩
    rw [List.filter_append, h.reported, List.filter_cons_of_neg (by simp [Notice.isWarning])]
    simp

section Loading

variable {store : Store} {requested : List Path}

theorem paths_of_not_stops (hwf : store.indexes.WellFormed)
    (hpaths : ∀ path ∈ requested, tree.Clear path)
    (hfiles : ∀ file ∈ requested.flatMap (filesOf tree), ¬ Stops tree file) :
    ∃ last, paths tree store requested = (last, none) ∧
      Complete tree store (requested.flatMap (filesOf tree)) last := by
  obtain ⟨last, hrun, hstore, ⟨keys, hkeys, hplaced⟩, hnotices⟩ :=
    run_of_not_stops (requested.flatMap (filesOf tree)).length 1 ⟨store, [], []⟩ hwf hfiles
  have hlast : Complete tree store (requested.flatMap (filesOf tree)) last :=
    ⟨hstore, by rw [hkeys]; exact hplaced, hnotices⟩
  refine ⟨_, ?_, complete_close hlast (requested.flatMap (filesOf tree)).length⟩
  rw [paths, expand_eq hpaths]
  dsimp only
  rw [hrun]

theorem paths_of_not_clear (store : Store) {path : Path} (hpath : path ∈ requested)
    (h : ¬ tree.Clear path) :
    ∃ error, paths tree store requested = (⟨store, [], []⟩, some error) := by
  obtain ⟨error, hexpand⟩ := expand_of_not_clear hpath h
  exact ⟨error, by rw [paths, hexpand]⟩

theorem paths_of_stops (hwf : store.indexes.WellFormed)
    (hpaths : ∀ path ∈ requested, tree.Clear path)
    {before later : List Path} {file : Path}
    (hfiles : requested.flatMap (filesOf tree) = before ++ file :: later)
    (hbefore : ∀ file ∈ before, ¬ Stops tree file) (hfile : Stops tree file) :
    ∃ last error, paths tree store requested = (last, some error) ∧
      last.store = store.applyAll (Store.intake (before.filterMap (text? tree))) := by
  obtain ⟨last, error, hrun, hstore⟩ :=
    run_of_stops (before ++ file :: later).length 1 ⟨store, [], []⟩ hwf hbefore hfile
  refine ⟨last, error, ?_, hstore⟩
  rw [paths, expand_eq hpaths, hfiles]
  dsimp only
  rw [hrun]

/-- A loading that ends without an error had nothing to stop it. -/
theorem not_stops_of_paths (hwf : store.indexes.WellFormed)
    (h : (paths tree store requested).2 = none) :
    (∀ path ∈ requested, tree.Clear path) ∧
      ∀ file ∈ requested.flatMap (filesOf tree), ¬ Stops tree file := by
  have hpaths : ∀ path ∈ requested, tree.Clear path := by
    intro path hpath
    by_contra hbarred
    obtain ⟨error, herror⟩ := paths_of_not_clear store hpath hbarred
    rw [herror] at h
    cases h
  refine ⟨hpaths, fun file hfile hstops => ?_⟩
  -- Some file is the first to stop the loading, which then has an error.
  obtain ⟨before, first, later, hfiles, hfirst, hbefore⟩ := exists_first ⟨file, hfile, hstops⟩
  obtain ⟨last, error, herror, -⟩ := paths_of_stops hwf hpaths hfiles hbefore hfirst
  rw [herror] at h
  cases h

theorem complete_of_paths (hwf : store.indexes.WellFormed)
    (h : (paths tree store requested).2 = none) :
    Complete tree store (requested.flatMap (filesOf tree)) (paths tree store requested).1 := by
  obtain ⟨hpaths, hfiles⟩ := not_stops_of_paths hwf h
  obtain ⟨last, houtcome, hlast⟩ := paths_of_not_stops hwf hpaths hfiles
  rw [houtcome]
  exact hlast

end Loading

/-- **Which loadings reach the end, and what they come to.** The files with a text
are those that can be read and whose bytes have one; any other file has a warning. A
loading ends without an error exactly if every path and everything listed below it can be
looked at and no file stops it, and then it is complete. Else it has taken in the files
before the first one that stops it, and none if something cannot be looked at. -/
theorem paths_ends_iff (pageSize : Int) (changes : List Store.Change) (tree : FileTree)
    (requested : List Path) :
    let store := (Store.empty pageSize).applyAll changes
    let files := requested.flatMap (filesOf tree)
    let outcome := paths tree store requested
    (∀ file name text, text? tree file = some (name, text) ↔
      ∃ raw, tree.read file = .ok raw ∧ Content.HasText file.name raw name text) ∧
    (∀ file, text? tree file = none ↔
      ∃ reason, warning? tree file = some (.skipped file.name reason)) ∧
    (outcome.2 = none ↔
      (∀ path ∈ requested, tree.Clear path) ∧ ∀ file ∈ files, ¬ Stops tree file) ∧
    (outcome.2 = none → Complete tree store files outcome.1) ∧
    (∀ path ∈ requested, ¬ tree.Clear path → outcome.1 = ⟨store, [], []⟩) ∧
    ((∀ path ∈ requested, tree.Clear path) →
      ∀ before file later, files = before ++ file :: later →
        (∀ file ∈ before, ¬ Stops tree file) → Stops tree file →
        outcome.1.store = store.applyAll (Store.intake (before.filterMap (text? tree)))) := by
  intro store files outcome
  have hwf : store.indexes.WellFormed := Store.wellFormed_applyAll IndexMap.wellFormed_nil changes
  refine ⟨fun _ _ _ => text?_eq_some_iff, fun _ => text?_eq_none_iff,
    ⟨not_stops_of_paths hwf, ?_⟩, complete_of_paths hwf, ?_, ?_⟩
  · rintro ⟨hpaths, hfiles⟩
    obtain ⟨last, houtcome, -⟩ := paths_of_not_stops hwf hpaths hfiles
    exact congrArg Prod.snd houtcome
  · intro path hpath hbarred
    obtain ⟨error, herror⟩ := paths_of_not_clear store hpath hbarred
    exact congrArg Prod.fst herror
  · intro hpaths before file later hfiles hbefore hfile
    obtain ⟨last, error, herror, hlast⟩ := paths_of_stops hwf hpaths hfiles hbefore hfile
    exact (congrArg (fun result => result.1.store) herror).trans hlast

/-- Wrong deflated data keep a good file behind them from being taken in. -/
theorem paths_stopped_by_corrupt_data :
    let packed : Path := .relative ["a.csv.gz".toList]
    let good : Path := .relative ["b.csv".toList]
    let tree : FileTree :=
      ⟨[(packed.names, .file [0x1F, 0x8B, 8, 0, 0, 0, 0, 0, 0, 3, 7]),
        (good.names, .file [0x78, 0x0A, 0x31])], []⟩
    let outcome := paths tree Store.initial [packed, good]
    text? tree good = some ("b.csv".toList, "x\n1".toList) ∧
      outcome = (⟨Store.initial, [], []⟩, some (.content (.corrupt .blockType))) := by
  decide +kernel

end Load

end ArtifactSearch
