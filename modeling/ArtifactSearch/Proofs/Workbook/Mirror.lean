import ArtifactSearch.Proofs.Export.Lines
import ArtifactSearch.Proofs.Workbook.Limits

/-!
# ArtifactSearch.Proofs.Workbook.Mirror

**The workbook mirrors the exported text.** Both are made of the same rows
(`Export.texts`), one as lines whose fields are the cells again, one as the table of a
sheet. No column of that table is one of numbers (`Report.kind_ne_number`), so its cells
are texts, whatever they look like.
-/

namespace ArtifactSearch

namespace Store

/-- **The workbook mirrors the exported text.** Whatever a store holds and whatever its
query is, its results make a workbook, as long as they fit into sheets. The sheet of the
results shows the lines of the exported text, from its fourth row on and to its end: in
each row there are as many cells as the line has fields, and each is a text cell with the
text of its field, without control characters and cut to what a cell can hold. What is
merged is above. -/
theorem workbook_mirrors_csv {store : Store} (h : store.Reachable) :
    let hits := store.results
    let csv := Export.csv store.indexes hits
    let lines := Text.split '\n' csv
    1 + (Export.columns store.indexes hits).length ≤ Sheet.lastColumn →
    4 + hits.length ≤ Sheet.lastRow →
    4 + (Report.profileRows store hits).length ≤ Sheet.lastRow →
    ∃ results fields : Sheet, Report.workbook store hits = .ok ⟨[results, fields]⟩ ∧
      results.title = "Results".toList ∧
      lines.length = 1 + hits.length ∧ lines = Csv.lines csv ∧
      results.visible.length = 4 + hits.length ∧
      (∀ i line, lines[i]? = some line →
        ∃ cells : List Cell, results.visible[3 + i]? = some (cells.map some) ∧
          List.Forall₂ (fun field cell =>
              cell.value = .text ((field.filter fun c => !Sheet.isControl c).take Sheet.maxText) ∧
              cell.kind = .text)
            (Csv.fields line) cells) ∧
      ∀ range ∈ results.merged, range.row < 4 := by
  intro hits csv lines hwidth hheight hprofiles
  have hwell : store.indexes.WellFormed := h.wellFormed
  have hbelong : Export.Belong store.indexes hits :=
    Export.belong_hits hwell (Query.read store.query)
  have hlines : lines = (Export.texts store.indexes hits).map Csv.row :=
    Export.split_csv hbelong hwell
  obtain ⟨results, fields, hbook, hresults, -⟩ := Report.exists_workbook hwidth hheight hprofiles
  refine ⟨results, fields, hbook, hresults.title, ?_, ?_, ?_, ?_, hresults.merged⟩
  · rw [hlines]
    simp [Export.texts, Export.frame]
    omega
  · rw [hlines, Export.lines_csv hbelong hwell]
  · rw [hresults.length_visible]
    simp [Export.frame]
  · intro i line hline
    rw [hlines, List.getElem?_map] at hline
    obtain ⟨row, hrow, rfl⟩ := Option.map_eq_some_iff.mp hline
    rw [Export.fields_row_of_mem hbelong hwell (List.mem_of_getElem? hrow)]
    have hlabelled : ((Report.resultColumns (Export.frame id store.indexes hits).columns).map
        ColumnSpec.label :: (Export.frame id store.indexes hits).rows)[i]? = some row := by
      rw [Report.map_label_resultColumns]
      exact hrow
    have hwhole : ∀ row ∈ (Export.frame id store.indexes hits).rows,
        row.length
          = (Report.resultColumns (Export.frame id store.indexes hits).columns).length := by
      intro row hmem
      rw [Report.length_resultColumns, Export.length_of_mem_texts (List.mem_cons_of_mem _ hmem)]
      rfl
    obtain ⟨cells, hcells, hholds⟩ := hresults.visible_texts
      (fun _ hcolumn => Report.kind_ne_number hcolumn) hwhole hlabelled
    exact ⟨cells, hcells, hholds.imp fun field cell hcell => ⟨hcell.value, hcell.kind⟩⟩

/-- A value that looks like a formula, with a bell behind it, is a text without the bell. -/
theorem workbook_mirrors_csv_formula :
    let store := (empty 100).applyAll [.ingest "a.csv".toList "f\n=1+1\x07".toList]
    store.Reachable ∧
      ∃ results fields : Sheet, Report.workbook store store.results = .ok ⟨[results, fields]⟩ ∧
        ∃ cells : List Cell, results.visible[4]? = some (cells.map some) ∧
          cells.map (fun cell => (cell.value, cell.kind))
            = [(.text "a".toList, .text), (.text "=1+1".toList, .text)] := by
  intro store
  have h : store.Reachable := ⟨100, _, rfl⟩
  have hresults : store.results = [⟨"a".toList, [("f".toList, "=1+1\x07".toList)]⟩] := by
    decide +kernel
  have hwidth : 1 + (Export.columns store.indexes store.results).length ≤ Sheet.lastColumn := by
    rw [hresults]
    decide +kernel
  have hheight : 4 + store.results.length ≤ Sheet.lastRow := by
    rw [hresults]
    decide
  have hprofile : store.profiles "a".toList = [⟨"f".toList, [("=1+1\x07".toList, 1)]⟩] := by
    have hget : store.indexes.get? "a".toList = some ⟨"a".toList, ["f".toList],
        [[("f".toList, "=1+1\x07".toList)]], "a.csv".toList⟩ := by decide +kernel
    have htop : Profile.topValues Profile.defaultLimit ["=1+1\x07".toList]
        = [("=1+1\x07".toList, 1)] := by
      rw [Profile.topValues, Profile.ranked, List.mergeSort_of_pairwise (by decide)]
      decide +kernel
    rw [Store.profiles, hget]
    exact congrArg (fun top => [Profile.mk "f".toList top]) htop
  have hprofiles : 4 + (Report.profileRows store store.results).length ≤ Sheet.lastRow := by
    have hnames : Export.represented store.results = ["a".toList] := by
      rw [hresults]
      decide
    rw [Report.profileRows, hnames, List.flatMap_singleton, hprofile]
    decide
  have hline : (Text.split '\n' (Export.csv store.indexes store.results))[1]?
      = some "a,=1+1\x07".toList := by
    decide +kernel
  obtain ⟨results, fields, hbook, -, -, -, -, hcells, -⟩ :=
    workbook_mirrors_csv h hwidth hheight hprofiles
  obtain ⟨cells, hvisible, hholds⟩ := hcells 1 _ hline
  have hfields : Csv.fields "a,=1+1\x07".toList = ["a".toList, "=1+1\x07".toList] := by decide
  rw [hfields] at hholds
  obtain ⟨first, rest, ⟨hvalue, hkind⟩, hrest, rfl⟩ := List.forall₂_cons_left_iff.mp hholds
  obtain ⟨second, none, ⟨hvalue', hkind'⟩, hnone, rfl⟩ := List.forall₂_cons_left_iff.mp hrest
  obtain rfl := List.forall₂_nil_left_iff.mp hnone
  refine ⟨h, results, fields, hbook, _, hvisible, ?_⟩
  simp only [List.map_cons, List.map_nil, hvalue, hkind, hvalue', hkind']
  decide

end Store

end ArtifactSearch
