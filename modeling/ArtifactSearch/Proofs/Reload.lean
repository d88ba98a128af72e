import ArtifactSearch.Proofs.Files.Discovery
import ArtifactSearch.Proofs.Load
import ArtifactSearch.Proofs.Store.Repeat
import ArtifactSearch.Proofs.Store.Revision

/-!
# ArtifactSearch.Proofs.Reload

**Loading the same paths once more.** Whether a loading ends depends on the tree and the paths,
not on the store, so a second one ends if the first did, and takes in the same files
(`not_stops_of_paths`, `paths_of_not_stops`). What that comes to is a matter of the store. The
system may list the tree in another order by then (`paths_of_relisted`).
-/

namespace ArtifactSearch.Load

variable {tree next : FileTree} {store : Store} {requested : List Path}

/-! ### Trees in another order -/

section Relisted

variable (h : tree.Relisted next) (hwell : tree.WellFormed)
include h hwell

theorem readText_of_relisted (path : Path) : readText next path = readText tree path := by
  rw [readText, readText, h.read hwell]

theorem expand_of_relisted (hclear : ∀ path ∈ requested, tree.Clear path) :
    expand next requested = expand tree requested := by
  have hfiles : ∀ path ∈ requested, filesOf next path = filesOf tree path := by
    intro path hpath
    have hfound := FileTree.discover_eq_ok_iff.mpr ⟨hclear path hpath, rfl⟩
    rw [filesOf, filesOf, FileTree.isFolder, FileTree.isFolder, h.find hwell, hfound,
      h.discover hwell hfound]
  rw [expand_eq hclear, expand_eq fun path hpath => h.clear hwell (hclear path hpath),
    List.flatMap_congr hfiles]

theorem run_of_relisted (files position : Nat) (progress : Progress) (paths : List Path) :
    run next files position progress paths = run tree files position progress paths := by
  induction paths generalizing position progress with
  | nil => rfl
  | cons path rest ih => simp only [run, step, readText_of_relisted h hwell, ih]

/-- What can be looked at is loaded the same however the tree is listed. -/
theorem paths_of_relisted (store : Store) (hclear : ∀ path ∈ requested, tree.Clear path) :
    paths next store requested = paths tree store requested := by
  simp only [paths, expand_of_relisted h hwell hclear, run_of_relisted h hwell]

end Relisted

/-! ### Loading twice -/

/-- The keys that a complete loading reports are those that its files have in the end. -/
theorem Complete.keys_eq {files : List Path} {last : Progress}
    (h : Complete tree store files last) (hwf : store.indexes.WellFormed)
    (hfiled : Store.Filed store.indexes) :
    last.keys = (files.filterMap (text? tree)).map fun text => last.store.keyFor text.1 := by
  rw [h.placed.keys_eq hwf hfiled, h.taken]

/-- A complete loading of files that were all loaded before reports the same keys and leaves
the index map as it is. -/
theorem Complete.again {files : List Path} {first last : Progress} (hwf : store.indexes.WellFormed)
    (hfiled : Store.Filed store.indexes) (hfirst : Complete tree store files first)
    (hlast : Complete tree first.store files last) :
    last.keys = first.keys ∧ last.store.indexes = first.store.indexes := by
  have hwf' : first.store.indexes.WellFormed :=
    hfirst.taken ▸ Store.wellFormed_applyAll hwf _
  have hfiled' : Store.Filed first.store.indexes :=
    hfirst.taken ▸ Store.filed_applyAll hwf hfiled _
  have hindexes : last.store.indexes = first.store.indexes := by
    rw [hlast.taken, hfirst.taken, Store.indexes_intake_again hwf]
  refine ⟨?_, hindexes⟩
  rw [hlast.keys_eq hwf' hfiled', hfirst.keys_eq hwf hfiled, Store.keyFor_congr hindexes]

/-- **Loading the same paths once more is without effect.** If the loading of some paths ends,
it ends once more from the store that it left. It reports the same keys, and the index map, the
query and the page stay as they are; only the revision may rise. If the tree is well-formed, it
does not matter in which order the system lists it then. -/
theorem paths_paths (hstore : store.Reachable) (hends : (paths tree store requested).2 = none) :
    let first := (paths tree store requested).1
    let again := paths tree first.store requested
    again.2 = none ∧ again.1.keys = first.keys ∧
      again.1.store.indexes = first.store.indexes ∧
      again.1.store.query = first.store.query ∧ again.1.store.page = first.store.page ∧
      first.store.revision ≤ again.1.store.revision ∧
      (tree.WellFormed → ∀ next, tree.Relisted next →
        paths next first.store requested = again) := by
  intro first again
  have hwf : store.indexes.WellFormed := hstore.wellFormed
  obtain ⟨hpaths, hfiles⟩ := not_stops_of_paths hwf hends
  have hfirst : Complete tree store (requested.flatMap (filesOf tree)) first :=
    complete_of_paths hwf hends
  have hwf' : first.store.indexes.WellFormed := hfirst.taken ▸ Store.wellFormed_applyAll hwf _
  obtain ⟨last, hagain, hlast⟩ := paths_of_not_stops hwf' hpaths hfiles
  have hsame : again = (last, none) := hagain
  obtain ⟨hkeys, hindexes⟩ := hfirst.again hwf hstore.filed hlast
  have hkept := Store.applyAll_intake_eq first.store
    ((requested.flatMap (filesOf tree)).filterMap (text? tree))
  rw [← hlast.taken] at hkept
  rw [hsame]
  refine ⟨rfl, hkeys, hindexes, ?_, ?_, ?_, fun hwell next hnext => ?_⟩
  · rw [hkept]
  · rw [hkept]
  · rw [hlast.taken]
    exact Store.revision_le_applyAll hwf' _
  · rw [paths_of_relisted hnext hwell _ hpaths]
    exact hagain

/-- Three files go into one index, which is loaded in another casing, and replace each other
again. -/
theorem paths_paths_colliding :
    let tree : FileTree := ⟨[(["ab.csv".toList], .file [0x78, 0x0A, 0x31]),
      (["AB.csv".toList], .file [0x79, 0x0A, 0x32]), (["A_b".toList], .file [0x78, 0x0A, 0x33]),
      (["c".toList], .file [0x7A, 0x0A, 0x34]), (["d".toList], .file [0])], []⟩
    let requested := ["ab.csv", "c", "AB.csv", "d", "A_b"].map fun name =>
      Path.relative [name.toList]
    let store := (Store.empty 100).ingest "aB.csv".toList "w\n0".toList
    let first := (paths tree store requested).1
    let again := paths tree first.store requested
    store.Reachable ∧ (paths tree store requested).2 = none ∧
      again.2 = none ∧ again.1.keys = first.keys ∧
      again.1.keys = ["aB".toList, "c".toList, "aB".toList, "aB".toList] ∧
      again.1.store.indexes = first.store.indexes ∧
      first.store.indexes.keys = ["aB".toList, "c".toList] ∧
      first.store.revision = 5 ∧ again.1.store.revision = 8 := by
  intro tree requested store first again
  have hstore : store.Reachable := ⟨100, [.ingest "aB.csv".toList "w\n0".toList], rfl⟩
  have hends : (paths tree store requested).2 = none := by decide +kernel
  obtain ⟨hagain, hkeys, hindexes, -⟩ := paths_paths hstore hends
  refine ⟨hstore, hends, hagain, hkeys, ?_, hindexes, ?_, ?_, ?_⟩
  · decide +kernel
  · decide +kernel
  · decide +kernel
  · decide +kernel

end ArtifactSearch.Load
