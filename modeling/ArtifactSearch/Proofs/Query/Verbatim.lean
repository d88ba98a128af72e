import ArtifactSearch.Proofs.Query.Selection
import ArtifactSearch.Proofs.Text.Steady

/-!
# ArtifactSearch.Proofs.Query.Verbatim

**Texts that are found where they stand.** A record that `Quotes` a text has it in some
value or some column name as it is written. The query for the text finds all such records
exactly if the text is steady (`Store.results_of_quotes_iff`): query and value are put in lower
case apart from each other, and a capital sigma at an end of the query may come out otherwise
in the middle of a value. A text with a line feed is quoted nowhere, so nothing can be missed.
-/

namespace ArtifactSearch

namespace Query

/-- Some value of the record, or some column name, has the text as a contiguous part, as it
is written. -/
def Quotes (s : Text) (columns : List Text) (record : Record) : Prop :=
  (∃ value ∈ record.values, s <:+: value) ∨ ∃ column ∈ columns, s <:+: column

variable {s : Text} {index : Index} {record : Record}

theorem Quotes.contains {columns : List Text} (h : Quotes s columns record) (hs : Text.Steady s) :
    Contains (Text.lower s) columns record :=
  h.imp (fun ⟨value, hvalue, hpart⟩ => ⟨value, hvalue, hs.lower_isInfix hpart⟩)
    fun ⟨column, hcolumn, hpart⟩ => ⟨column, hcolumn, hs.lower_isInfix hpart⟩

/-- No record of a table quotes a line feed. -/
theorem not_quotes_of_newline (hs : '\n' ∈ s) (htable : index.table.WellFormed)
    (hrecord : record ∈ index.records) : ¬ Quotes s index.columns record := by
  rintro (⟨value, hvalue, hpart⟩ | ⟨column, hcolumn, hpart⟩)
  · exact (htable.valueCells record hrecord value hvalue).oneLine (hpart.subset hs)
  · exact (htable.columnCells column hcolumn).oneLine (hpart.subset hs)

/-- A text on one line may have a letter or a dash on either side in a cell. -/
theorem isCell_around {a b : Char} (ha : a ∈ ['a', '-']) (hb : b ∈ ['a', '-']) (hs : '\n' ∉ s) :
    Csv.IsCell (a :: (s ++ [b])) := by
  have hsides : ∀ c ∈ ['a', '-'], Blank.isEdge c = false ∧ '\n' ≠ c :=
    List.forall_mem_cons.mpr ⟨by decide, List.forall_mem_singleton.mpr (by decide)⟩
  refine ⟨⟨?_, ?_⟩, ?_⟩
  · rintro c ⟨⟩
    exact (hsides a ha).1
  · intro c hc
    rw [← List.cons_append, List.getLast?_concat] at hc
    cases hc
    exact (hsides b hb).1
  · simp [hs, (hsides a ha).2, (hsides b hb).2]

end Query

namespace Store

/-- A store of one file, which has the cell for its only column and its only value. -/
def holding (cell : Text) : Store :=
  (empty 100).applyAll [.ingest "a.csv".toList (Table.written [cell] [fun _ => cell])]

theorem indexes_holding {cell : Text} (hcell : Csv.IsCell cell) (hne : cell ≠ []) :
    (holding cell).indexes
      = [("a".toList, ⟨"a".toList, [cell], [[(cell, cell)]], "a.csv".toList⟩)] := by
  have hline := Csv.isLine_row_singleton hcell hne
  have hparse : Table.parse (Table.written [cell] [fun _ => cell]) = ⟨[cell], [[(cell, cell)]]⟩ :=
    Table.parse_written (by simp) (List.nodup_singleton _) (by simpa using hcell)
      (by simpa using hcell) hline (by simpa using hline)
  have hkey : (empty 100).keyFor "a.csv".toList = "a".toList := by decide
  show ((empty 100).ingest _ _).indexes = _
  rw [indexes_ingest IndexMap.wellFormed_nil, hkey, hparse]
  rfl

/-- A cell that holds a text is missed by the query for it, if the lower-case forms do not
agree. -/
theorem results_holding_eq_nil {cell query : Text} (hcell : Csv.IsCell cell) (hne : cell ≠ [])
    (hquery : Text.trim Blank.isSpace query ≠ [])
    (hform : Query.indexForm? (Text.trim Blank.isSpace query) = none)
    (h : ¬ Text.lower (Text.trim Blank.isSpace query) <:+: Text.lower cell) :
    ((holding cell).setQuery query).results = [] := by
  show (Query.read query).hits (holding cell).indexes.values = []
  rw [Query.read_of_indexForm?_eq_none hquery hform, indexes_holding hcell hne]
  refine Query.hits_eq_nil fun index hindex record hrecord hpicked => h ?_
  have hlower : Text.lower (Text.trim Blank.isSpace query) ≠ [] := fun hnil =>
    hquery (Text.lower_eq_nil_iff.mp hnil)
  obtain rfl := List.mem_singleton.mp hindex
  obtain rfl := List.mem_singleton.mp hrecord
  rcases (Query.picks_anywhere_iff hlower).mp hpicked with
    ⟨value, hvalue, hpart⟩ | ⟨column, hcolumn, hpart⟩
  · obtain rfl := List.mem_singleton.mp hvalue
    exact hpart
  · obtain rfl := List.mem_singleton.mp hcolumn
    exact hpart

/-- **A query finds what quotes it exactly if it is steady.** Let the query be no blank one
and not of the `index=` form. Every record that has it, as it is written, in a value or a column
name is a result of it in every store, if its lower-case form does not depend on what stands
around it, and only then. Queries without a capital sigma are of that kind; one with a line
feed is quoted nowhere. -/
theorem results_of_quotes_iff {query : Text} (hne : Text.trim Blank.isSpace query ≠ [])
    (hform : Query.indexForm? (Text.trim Blank.isSpace query) = none) :
    let s := Text.trim Blank.isSpace query
    ((∀ store : Store, store.Reachable → ∀ index ∈ store.indexes.values,
        ∀ record ∈ index.records, Query.Quotes s index.columns record →
        ⟨index.name, record⟩ ∈ (store.setQuery query).results) ↔
      (Text.Steady s ∨ '\n' ∈ s)) ∧
    ('Σ' ∉ s → Text.Steady s) := by
  intro s
  refine ⟨⟨fun hfound => ?_, ?_⟩, Text.steady_of_not_mem⟩
  · by_contra hneither
    obtain ⟨hsteady, hline⟩ := not_or.mp hneither
    obtain ⟨a, ha, b, hb, hmissed⟩ := Text.exists_around hsteady
    have hcell := Query.isCell_around ha hb hline
    have hnone := results_holding_eq_nil hcell (List.cons_ne_nil _ _) hne hform hmissed
    have hpart : s <:+: a :: (s ++ [b]) := ⟨[a], [b], rfl⟩
    have hindex := indexes_holding hcell (List.cons_ne_nil _ _)
    have hhit := hfound (holding (a :: (s ++ [b]))) ⟨100, _, rfl⟩ _
      (by rw [hindex]; exact List.mem_singleton.mpr rfl) _ (List.mem_singleton.mpr rfl)
      (.inr ⟨_, List.mem_singleton.mpr rfl, hpart⟩)
    rw [hnone] at hhit
    cases hhit
  · intro hor store h index hindex record hrecord hquotes
    have hline : '\n' ∉ s := fun hmem => Query.not_quotes_of_newline hmem
      (h.wellFormed.table_of_mem_values hindex) hrecord hquotes
    have hpicked : (Query.read query).picks index record = true := by
      rw [Query.read_of_indexForm?_eq_none hne hform,
        Query.picks_anywhere_iff fun hnil => hne (Text.lower_eq_nil_iff.mp hnil)]
      exact hquotes.contains (hor.resolve_right hline)
    exact Query.mem_hits_of_picks hindex hrecord hpicked

/-- A capital sigma at the start of a word is the same whatever stands before the word. -/
theorem results_of_quotes_iff_start :
    let query := " ΣΟΦΙΑ\t".toList
    let s := Text.trim Blank.isSpace query
    s ≠ [] ∧ Query.indexForm? s = none ∧
      ∀ store : Store, store.Reachable → ∀ index ∈ store.indexes.values,
        ∀ record ∈ index.records, Query.Quotes s index.columns record →
        ⟨index.name, record⟩ ∈ (store.setQuery query).results := by
  intro query s
  have hne : s ≠ [] := by decide
  have hform : Query.indexForm? s = none := by decide
  have hsteady : Text.Steady s := by decide
  exact ⟨hne, hform, (results_of_quotes_iff hne hform).1.mpr (.inl hsteady)⟩

/-- A query that ends in a capital sigma is not found in a value that goes on behind it, though
it stands there letter for letter. -/
theorem quoting_record_missed :
    let query := "ΟΔΟΣ".toList
    let store := (empty 100).applyAll [.ingest "a.csv".toList "Name\nΟΔΟΣΤΡΩΜΑ".toList]
    let record : Record := [("Name".toList, "ΟΔΟΣΤΡΩΜΑ".toList)]
    let index : Index := ⟨"a".toList, ["Name".toList], [record], "a.csv".toList⟩
    store.Reachable ∧ Text.trim Blank.isSpace query = query ∧ Query.indexForm? query = none ∧
      index ∈ store.indexes.values ∧ record ∈ index.records ∧
      Query.Quotes query index.columns record ∧
      (store.setQuery query).results = [] := by
  intro query store record index
  have hpart : query <:+: "ΟΔΟΣΤΡΩΜΑ".toList := by decide
  have hindex : index ∈ store.indexes.values := by decide +kernel
  have hnone : (store.setQuery query).results = [] := by decide +kernel
  exact ⟨⟨100, _, rfl⟩, by decide, by decide, hindex, List.mem_cons_self,
    .inl ⟨_, List.mem_cons_self, hpart⟩, hnone⟩

end Store

end ArtifactSearch
