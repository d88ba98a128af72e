import ArtifactSearch.Proofs.Query.Block
import ArtifactSearch.Proofs.Query.Reading
import ArtifactSearch.Proofs.Store.Invariant
import ArtifactSearch.Proofs.Text.Lower

/-!
# ArtifactSearch.Proofs.Query.Selection

**What a query selects**, said without running it. `Selects` follows the grammar
of query texts and speaks of contiguous parts of lower-cased texts; it knows
nothing of line feeds.

On well-formed tables the picked records are the selected ones (`picks_read_iff`).
The reading that leaves the grammar, a scoped text that goes on over a line feed,
does no harm there: values and column names are on one line, lower-casing keeps
line feeds, and so neither reading finds anything.
-/

namespace ArtifactSearch

namespace Query

/-! ### Selected records -/

/-- Some value of the record, or some column name, has the needle as a contiguous
part in lower case. -/
def Contains (needle : Text) (columns : List Text) (record : Record) : Prop :=
  (∃ value ∈ record.values, needle <:+: Text.lower value) ∨
    ∃ column ∈ columns, needle <:+: Text.lower column

/-- Whether a trimmed query text asks for a record of an index. -/
inductive Selects (s : Text) (index : Index) (record : Record) : Prop where
  /-- The blank query asks for everything. -/
  | all : s = [] → Selects s index record
  /-- A scoped query asks for its index, in any casing, and for its further text,
  if there is any. -/
  | within {name further : Text} : Scoped s name further →
      Text.lower index.name = Text.lower name →
      (Text.trim Blank.isSpace further ≠ [] →
        Contains (Text.lower (Text.trim Blank.isSpace further)) index.columns record) →
      Selects s index record
  /-- Any other query asks for itself, in every index. -/
  | anywhere : s ≠ [] → (∀ name further, ¬ Scoped s name further) →
      Contains (Text.lower s) index.columns record → Selects s index record

theorem holds_iff {needle : Text} {columns : List Text} {record : Record} :
    holds needle columns record = true ↔ Contains needle columns record := by
  simp only [holds, Contains, Bool.or_eq_true, List.any_eq_true, Text.occursIn_iff]

variable {s : Text} {index : Index} {record : Record}

theorem selects_of_scoped {name further : Text} (h : Scoped s name further) :
    Selects s index record ↔ Text.lower index.name = Text.lower name ∧
      (Text.trim Blank.isSpace further ≠ [] →
        Contains (Text.lower (Text.trim Blank.isSpace further)) index.columns record) := by
  constructor
  · intro hselects
    cases hselects with
    | all hs => exact absurd hs h.ne_nil
    | within hscoped hname hcontains =>
        obtain ⟨rfl, rfl⟩ := hscoped.unique h
        exact ⟨hname, hcontains⟩
    | anywhere _ hplain _ => exact absurd h (hplain _ _)
  · rintro ⟨hname, hcontains⟩
    exact .within h hname hcontains

theorem selects_of_plain (hs : s ≠ []) (h : ∀ name further, ¬ Scoped s name further) :
    Selects s index record ↔ Contains (Text.lower s) index.columns record := by
  constructor
  · intro hselects
    cases hselects with
    | all hnil => exact absurd hnil hs
    | within hscoped _ _ => exact absurd hscoped (h _ _)
    | anywhere _ _ hcontains => exact hcontains
  · exact .anywhere hs h

instance (needle : Text) (columns : List Text) (record : Record) :
    Decidable (Contains needle columns record) :=
  decidable_of_iff _ holds_iff

instance (s : Text) (index : Index) (record : Record) : Decidable (Selects s index record) :=
  if hs : s = [] then .isTrue (.all hs)
  else
    match hscope : scope? s with
    | some (_, _) => decidable_of_iff _ (selects_of_scoped (scope?_eq_some_iff.mp hscope)).symm
    | none =>
      decidable_of_iff _ (selects_of_plain hs fun name further hscoped => by
        rw [scope?_eq_some_iff.mpr hscoped] at hscope
        cases hscope).symm

/-! ### Picked records are the selected ones -/

/-- A needle with a line feed is in no record of a table. -/
theorem not_contains_of_newline {needle : Text} (hneedle : '\n' ∈ needle)
    (htable : index.table.WellFormed) (hrecord : record ∈ index.records) :
    ¬ Contains needle index.columns record := by
  have hcell : ∀ {cell : Text}, Csv.IsCell cell → ¬ needle <:+: Text.lower cell :=
    fun hcell hpart => hcell.oneLine (Text.newline_mem_lower.mp (hpart.subset hneedle))
  rintro (⟨value, hvalue, hpart⟩ | ⟨column, hcolumn, hpart⟩)
  · exact hcell (htable.valueCells record hrecord value hvalue) hpart
  · exact hcell (htable.columnCells column hcolumn) hpart

theorem picks_anywhere_iff {needle : Text} (h : needle ≠ []) :
    (anywhere needle).picks index record = true ↔ Contains needle index.columns record := by
  simp [picks, h, holds_iff]

theorem picks_within_iff {name needle : Text} :
    (within name needle).picks index record = true ↔
      Text.lower index.name = name ∧ (needle ≠ [] → Contains needle index.columns record) := by
  simp only [picks, Bool.and_eq_true, Bool.or_eq_true, decide_eq_true_eq, List.isEmpty_iff,
    holds_iff, or_iff_not_imp_left, ne_eq]

/-- The further text of a scoped query that goes on over a line feed is found
nowhere, and neither is the whole query. -/
theorem not_contains_of_scoped {name further : Text} (h : Scoped s name further)
    (hfeed : '\n' ∈ Text.trim Blank.isSpace further) (htable : index.table.WellFormed)
    (hrecord : record ∈ index.records) :
    ¬ Contains (Text.lower s) index.columns record ∧
      ¬ Contains (Text.lower (Text.trim Blank.isSpace further)) index.columns record := by
  obtain ⟨keyword, -, hspelled⟩ := h.spelled
  have hs : '\n' ∈ s := by
    rw [hspelled]
    simp [Text.mem_of_mem_trim hfeed]
  exact ⟨not_contains_of_newline (Text.newline_mem_lower.mpr hs) htable hrecord,
    not_contains_of_newline (Text.newline_mem_lower.mpr hfeed) htable hrecord⟩

theorem picks_read_iff (text : Text) (htable : index.table.WellFormed)
    (hrecord : record ∈ index.records) :
    (read text).picks index record = true ↔
      Selects (Text.trim Blank.isSpace text) index record := by
  by_cases hnil : Text.trim Blank.isSpace text = []
  · rw [read_of_nil hnil]
    exact iff_of_true rfl (.all hnil)
  have hlower : Text.lower (Text.trim Blank.isSpace text) ≠ [] :=
    fun h => hnil (Text.lower_eq_nil_iff.mp h)
  by_cases hscoped : ∃ name further, Scoped (Text.trim Blank.isSpace text) name further
  · obtain ⟨name, further, hscoped⟩ := hscoped
    rw [read_of_scoped hscoped, selects_of_scoped hscoped]
    split
    · rename_i hfeed
      -- The reading leaves the grammar here, but both look for a line feed.
      obtain ⟨hwhole, hfurther⟩ := not_contains_of_scoped hscoped hfeed htable hrecord
      rw [picks_anywhere_iff hlower]
      exact iff_of_false hwhole fun h => hfurther (h.2 (List.ne_nil_of_mem hfeed))
    · rw [picks_within_iff, ne_eq, Text.lower_eq_nil_iff]
  · have hplain : ∀ name further, ¬ Scoped (Text.trim Blank.isSpace text) name further :=
      fun name further h => hscoped ⟨name, further, h⟩
    rw [read_of_plain hnil hplain, picks_anywhere_iff hlower, selects_of_plain hnil hplain]

/-- A query that picks no record of any index has no results. -/
theorem hits_eq_nil {query : Query} {indexes : List Index}
    (h : ∀ index ∈ indexes, ∀ record ∈ index.records, query.picks index record ≠ true) :
    query.hits indexes = [] := by
  rw [hits_eq_flatMap, List.flatMap_eq_nil_iff]
  intro index hindex
  rw [block, List.map_eq_nil_iff, List.filter_eq_nil_iff]
  exact h index hindex

end Query

namespace Store

/-- **The results are exactly the selected records**, in index order and then in
record order, each once and with the name of its index. A scoped query that goes
on over a line feed is read as plain, and either reading of it finds nothing. -/
theorem results_eq_selected {store : Store} (h : store.Reachable) (query : Text) :
    let s := Text.trim Blank.isSpace query
    let indexes := store.indexes.values
    (store.setQuery query).results
      = indexes.flatMap (fun index =>
          (index.records.filter (fun record => Query.Selects s index record)).map
            (fun record => ⟨index.name, record⟩)) ∧
    ∀ name further, Query.Scoped s name further → '\n' ∈ Text.trim Blank.isSpace further →
      Query.read query = .anywhere (Text.lower s) ∧
      Query.hits (.anywhere (Text.lower s)) indexes = [] ∧
      Query.hits (.within (Text.lower name) (Text.lower (Text.trim Blank.isSpace further)))
        indexes = [] := by
  intro s indexes
  have htable : ∀ index ∈ indexes, index.table.WellFormed :=
    fun _ hindex => h.wellFormed.table_of_mem_values hindex
  constructor
  · show (Query.read query).hits indexes = _
    rw [Query.hits_eq_flatMap]
    refine List.flatMap_congr fun index hindex => congrArg (List.map _) ?_
    refine List.filter_congr fun record hrecord => ?_
    rw [Bool.eq_iff_iff, Query.picks_read_iff query (htable index hindex) hrecord,
      decide_eq_true_iff]
  · intro name further hscoped hfeed
    have hnone : ∀ index ∈ indexes, ∀ record ∈ index.records,
        ¬ Query.Contains (Text.lower s) index.columns record ∧
        ¬ Query.Contains (Text.lower (Text.trim Blank.isSpace further)) index.columns record :=
      fun index hindex record hrecord =>
        Query.not_contains_of_scoped hscoped hfeed (htable index hindex) hrecord
    have hs : Text.lower s ≠ [] := fun hnil => hscoped.ne_nil (Text.lower_eq_nil_iff.mp hnil)
    have hne : Text.lower (Text.trim Blank.isSpace further) ≠ [] := fun hnil =>
      List.ne_nil_of_mem hfeed (Text.lower_eq_nil_iff.mp hnil)
    refine ⟨by rw [Query.read_of_scoped hscoped, if_pos hfeed], ?_, ?_⟩
    · refine Query.hits_eq_nil fun index hindex record hrecord hpicked => ?_
      exact (hnone index hindex record hrecord).1 ((Query.picks_anywhere_iff hs).mp hpicked)
    · refine Query.hits_eq_nil fun index hindex record hrecord hpicked => ?_
      exact (hnone index hindex record hrecord).2 ((Query.picks_within_iff.mp hpicked).2 hne)

/-- The selection at work: keyword and name in any casing, and a line feed before
the further text. -/
theorem results_eq_selected_users :
    let store := (empty 100).applyAll [.ingest "Users.csv".toList "Name\nalice\nbob".toList]
    store.Reachable ∧
      (store.setQuery " INDEX=users\n LI".toList).results
        = [⟨"Users".toList, [("Name".toList, "alice".toList)]⟩] := by
  intro store
  have h : store.Reachable := ⟨100, _, rfl⟩
  exact ⟨h, (results_eq_selected h _).1.trans (by decide +kernel)⟩

end Store

end ArtifactSearch
