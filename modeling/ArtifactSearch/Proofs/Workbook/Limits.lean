import ArtifactSearch.Proofs.Workbook.History
import ArtifactSearch.Proofs.Workbook.Report

/-!
# ArtifactSearch.Proofs.Workbook.Limits

**A report makes a workbook exactly if it fits into sheets** (`Report.workbook_ok_iff`).
What fits is written as a whole, one sheet for the results and one for the profiles
(`Report.exists_workbook`). What does not fit stops at the title block or at the first
row behind the last one: a table that does not fail has written its last row
(`Sheet.height_le_of_takes`).
-/

namespace ArtifactSearch

namespace Report

variable {store : Store} {hits : List (Hit Text)} {names : List Text}

theorem length_resultColumns (names : List Text) : (resultColumns names).length = names.length := by
  cases names with
  | nil => rfl
  | cons first rest => simp [resultColumns]

theorem map_label_resultColumns (names : List Text) :
    (resultColumns names).map ColumnSpec.label = names := by
  cases names with
  | nil => rfl
  | cons first rest => simp [resultColumns, Function.comp_def]

theorem kind_ne_number {column : ColumnSpec} (h : column ∈ resultColumns names) :
    column.kind ≠ .number := by
  cases names with
  | nil => cases h
  | cons first rest =>
      rcases List.mem_cons.mp h with rfl | h
      · exact nofun
      · obtain ⟨name, -, rfl⟩ := List.mem_map.mp h
        exact nofun

/-- The table of the results, with the cells as values. -/
abbrev resultRows (store : Store) (hits : List (Hit Text)) : List (List Value) :=
  (Export.frame id store.indexes hits).rows.map fun row => row.map Value.text

theorem length_of_mem_resultRows {values : List Value} (h : values ∈ resultRows store hits) :
    values.length = (Export.frame id store.indexes hits).columns.length := by
  obtain ⟨row, hrow, rfl⟩ := List.mem_map.mp h
  obtain ⟨hit, -, rfl⟩ := List.mem_map.mp hrow
  simp [Export.frame]

/-- The table of the profiles: one row for each value that they report. -/
def profileRows (store : Store) (hits : List (Hit Text)) : List (List Value) :=
  (Export.represented hits).flatMap fun name =>
    (store.profiles name).flatMap fun profile =>
      profile.top.map fun entry =>
        [.text name, .text profile.column, .text entry.1, .number entry.2]

theorem exists_of_mem_profileRows {values : List Value} (h : values ∈ profileRows store hits) :
    ∃ (name column value : Text) (count : Nat),
      values = [.text name, .text column, .text value, .number count] := by
  obtain ⟨name, -, h⟩ := List.mem_flatMap.mp h
  obtain ⟨profile, -, h⟩ := List.mem_flatMap.mp h
  obtain ⟨entry, -, rfl⟩ := List.mem_map.mp h
  exact ⟨_, _, _, _, rfl⟩

theorem ne_nil_of_mem_resultRows {values : List Value} (h : values ∈ resultRows store hits) :
    values ≠ [] := by
  rw [← List.length_pos_iff, length_of_mem_resultRows h]
  exact Nat.succ_pos _

theorem ne_nil_of_mem_profileRows {values : List Value} (h : values ∈ profileRows store hits) :
    values ≠ [] := by
  obtain ⟨name, column, value, count, rfl⟩ := exists_of_mem_profileRows h
  exact List.cons_ne_nil _ _

theorem rows_results (store : Store) (hits : List (Hit Text)) :
    TableData.rows (resultColumns (Export.frame id store.indexes hits).columns)
        (.frame (Export.frame id store.indexes hits).columns (resultRows store hits))
      = .ok (resultRows store hits) :=
  TableData.rows_frame _ (List.cons_ne_nil _ _) fun _ hmem => length_of_mem_resultRows hmem

/-- Each record has its values under the keys of the columns, in their order. -/
theorem rows_profiles (store : Store) (hits : List (Hit Text)) :
    TableData.rows profileColumns (.records (profileRecords store hits))
      = .ok (profileRows store hits) := by
  rw [TableData.rows, profileRecords]
  simp only [List.map_flatMap, List.map_map]
  rfl

theorem fitting_results
    (hwidth : 1 + (Export.columns store.indexes hits).length ≤ Sheet.lastColumn)
    (hheight : 4 + hits.length ≤ Sheet.lastRow) :
    Sheet.Fitting (resultColumns (Export.frame id store.indexes hits).columns)
      (resultRows store hits) where
  width := by
    rw [length_resultColumns]
    simp [Export.frame]
    omega
  height := by
    simpa [resultRows, Export.frame] using hheight
  whole := by
    intro values hvalues
    rw [length_resultColumns, length_of_mem_resultRows hvalues]
  fits := by
    intro values hvalues v hv hnumber
    obtain ⟨column, hcolumn, hkind⟩ := List.mem_map.mp (List.of_mem_zip hv).1
    exact absurd (hkind.trans hnumber) (kind_ne_number hcolumn)

theorem fitting_profiles
    (hheight : 4 + (profileRows store hits).length ≤ Sheet.lastRow) :
    Sheet.Fitting profileColumns (profileRows store hits) := by
  refine ⟨by decide, hheight, fun values hmem => ?_, fun values hmem v hv => ?_⟩
  · obtain ⟨name, column, value, count, rfl⟩ := exists_of_mem_profileRows hmem
    rfl
  · obtain ⟨name, column, value, count, rfl⟩ := exists_of_mem_profileRows hmem
    -- Only the count goes into a column of numbers.
    simp [profileColumns] at hv
    rcases hv with rfl | rfl | rfl | rfl <;> simp [Sheet.Fits]

/-- Within the limits of sheets there is a workbook: one sheet for the results, and one
for the profiles. -/
theorem exists_workbook
    (hwidth : 1 + (Export.columns store.indexes hits).length ≤ Sheet.lastColumn)
    (hheight : 4 + hits.length ≤ Sheet.lastRow)
    (hprofiles : 4 + (profileRows store hits).length ≤ Sheet.lastRow) :
    ∃ results fields : Sheet, workbook store hits = .ok ⟨[results, fields]⟩ ∧
      results.Report "Results".toList (resultColumns (Export.frame id store.indexes hits).columns)
        ((Export.frame id store.indexes hits).rows.map fun row => row.map Value.text) ∧
      fields.Report "Fields".toList profileColumns (profileRows store hits) := by
  have hcolumns : ((Export.frame id store.indexes hits).columns.length : Int)
      = (resultColumns (Export.frame id store.indexes hits).columns).length := by
    rw [length_resultColumns]
  obtain ⟨results, hresults, hbuilt⟩ := Workbook.build_report [] (show 0 = _ from rfl)
    (by decide : (⟨[]⟩ : Workbook).titleFor "Results".toList = .ok "Results".toList)
    (.text "Forensic Reader — Search Results".toList) (.text (subtitle store hits))
    (rows_results store hits) (fitting_results hwidth hheight) (profileSteps store hits)
  have hname : (⟨[results]⟩ : Workbook).titleFor "Fields".toList = .ok "Fields".toList := by
    simp only [Workbook.titleFor, List.isEmpty_cons, List.map_cons, List.map_nil, hresults.title]
    decide
  obtain ⟨fields, hfields, hended⟩ := Workbook.build_report [results] (show 1 = _ from rfl) hname
    (.text "Field Profiles".toList) (.text "Top values per field (empty values excluded)".toList)
    (rows_profiles store hits) (fitting_profiles hprofiles) []
  refine ⟨results, fields, ?_, hresults, hfields⟩
  unfold workbook steps resultSteps
  dsimp only
  rw [hcolumns]
  exact hbuilt.trans hended

/-- What a report needs to fit into sheets: the columns and the rows of the results, and the
rows of the profiles. -/
structure Fits (store : Store) (hits : List (Hit Text)) : Prop where
  width : 1 + (Export.columns store.indexes hits).length ≤ Sheet.lastColumn
  height : 4 + hits.length ≤ Sheet.lastRow
  profiles : 4 + (profileRows store hits).length ≤ Sheet.lastRow

theorem fits_of_workbook {book : Workbook} (h : workbook store hits = .ok book) :
    Fits store hits := by
  obtain ⟨_, _, -, h⟩ := Workbook.build_cons_ok h
  obtain ⟨_, _, htitle, h⟩ := Workbook.build_cons_ok h
  obtain ⟨_, _, hresults, h⟩ := Workbook.build_cons_ok h
  obtain ⟨_, _, -, h⟩ := Workbook.build_cons_ok h
  obtain ⟨_, _, -, h⟩ := Workbook.build_cons_ok h
  obtain ⟨_, _, hprofiles, -⟩ := Workbook.build_cons_ok h
  obtain ⟨_, _, -, hmerged⟩ := Workbook.ok_of_editSheet (congrArg Prod.fst htitle)
  obtain ⟨_, hwritten⟩ := Workbook.taken_of_addTable (rows_results store hits)
    (congrArg Prod.fst hresults)
  obtain ⟨_, hlisted⟩ := Workbook.taken_of_addTable (rows_profiles store hits)
    (congrArg Prod.fst hprofiles)
  have hwidth := Sheet.columns_le_of_writeTitle hmerged
  have hheight := Sheet.height_le_of_takes (by decide) (List.cons_ne_nil _ _)
    (fun _ hmem => ne_nil_of_mem_resultRows hmem) hwritten
  have hlast := Sheet.height_le_of_takes (by decide) (by decide)
    (fun _ hmem => ne_nil_of_mem_profileRows hmem) hlisted
  have hcolumns : (Export.frame id store.indexes hits).columns.length
      = 1 + (Export.columns store.indexes hits).length := by
    simp [Export.frame]
    omega
  have hrows : (resultRows store hits).length = hits.length := by simp [resultRows, Export.frame]
  have hstart : Sheet.rowAfterTitle = 4 := rfl
  exact ⟨by omega, by omega, by omega⟩

theorem workbook_ok_iff : (∃ book, workbook store hits = .ok book) ↔ Fits store hits := by
  constructor
  · rintro ⟨book, h⟩
    exact fits_of_workbook h
  · intro h
    obtain ⟨results, fields, hbook, -⟩ := exists_workbook h.width h.height h.profiles
    exact ⟨_, hbook⟩

end Report

end ArtifactSearch
