import ArtifactSearch.Proofs.Export.RoundTrip

/-!
# ArtifactSearch.Proofs.Export.Lines

**An export line by line.** Its lines are the written rows of its frame, the column names
first (`split_csv`). No line is lost to a reader of tables (`lines_csv`), and its fields
are the cells of the row (`fields_row_of_mem`). None of this minds what the columns are
called, be one of them named like the index column.
-/

namespace ArtifactSearch.Export

variable {indexes : IndexMap} {hits : List (Hit Text)}

/-- The rows of an export, with the column names for the first one. -/
def texts (indexes : IndexMap) (hits : List (Hit Text)) : List (List Text) :=
  (frame id indexes hits).columns :: (frame id indexes hits).rows

theorem csv_eq_join (indexes : IndexMap) (hits : List (Hit Text)) :
    csv indexes hits = Text.join ['\n'] ((texts indexes hits).map Csv.row) := by
  simp [csv, csvOf, texts]

theorem mem_texts {row : List Text} (h : row ∈ texts indexes hits) :
    row = indexColumn :: columns indexes hits ∨ ∃ hit ∈ hits, row = hit.index ::
      (columns indexes hits).map fun column => (hit.row.get? column).getD [] := by
  rcases List.mem_cons.mp h with rfl | hrow
  · exact .inl rfl
  · obtain ⟨hit, hhit, rfl⟩ := List.mem_map.mp hrow
    exact .inr ⟨hit, hhit, rfl⟩

theorem length_of_mem_texts {row : List Text} (h : row ∈ texts indexes hits) :
    row.length = (columns indexes hits).length + 1 := by
  rcases mem_texts h with rfl | ⟨hit, -, rfl⟩
  · rfl
  · rw [List.length_cons, List.length_map]

theorem map_row_texts_ne_nil (indexes : IndexMap) (hits : List (Hit Text)) :
    (texts indexes hits).map Csv.row ≠ [] := List.cons_ne_nil _ _

section Belong

variable (hbelong : Belong indexes hits) (h : indexes.WellFormed)
include hbelong h

theorem isCell_of_mem_texts {row : List Text} (hrow : row ∈ texts indexes hits) :
    ∀ value ∈ row, Csv.IsCell value := by
  rcases mem_texts hrow with rfl | ⟨hit, hhit, rfl⟩
  · exact fun name hname => isCell_of_mem_header hbelong h hname
  · rw [List.forall_mem_cons, List.forall_mem_map]
    exact ⟨isCell_index hbelong h hhit, fun name _ => isCell_value hbelong h hhit name⟩

theorem isLine_of_mem_texts {row : List Text} (hrow : row ∈ texts indexes hits) :
    Csv.IsLine (Csv.row row) := by
  have hcells := isCell_of_mem_texts hbelong h hrow
  have hlength := length_of_mem_texts hrow
  rcases mem_texts hrow with rfl | ⟨hit, hhit, rfl⟩
  · exact isLine_header hbelong h
  · exact isLine_of_length hbelong h (List.ne_nil_of_mem hhit) hlength hcells

theorem isLine_of_mem_map_row : ∀ line ∈ (texts indexes hits).map Csv.row, Csv.IsLine line :=
  List.forall_mem_map.mpr fun _ hrow => isLine_of_mem_texts hbelong h hrow

theorem split_csv : Text.split '\n' (csv indexes hits) = (texts indexes hits).map Csv.row := by
  rw [csv_eq_join, Text.split_join (map_row_texts_ne_nil indexes hits)]
  exact fun line hline => (isLine_of_mem_map_row hbelong h line hline).oneLine

theorem lines_csv : Csv.lines (csv indexes hits) = (texts indexes hits).map Csv.row := by
  rw [csv_eq_join,
    Csv.lines_join (map_row_texts_ne_nil indexes hits) (isLine_of_mem_map_row hbelong h)]

theorem fields_row_of_mem {row : List Text} (hrow : row ∈ texts indexes hits) :
    Csv.fields (Csv.row row) = row := by
  have hne : row ≠ [] := List.length_pos_iff.mp (by rw [length_of_mem_texts hrow]; omega)
  rw [Csv.fields_row hne, Csv.map_trim_eq_self]
  exact fun value hvalue => (isCell_of_mem_texts hbelong h hrow value hvalue).trimmed

end Belong

end ArtifactSearch.Export
