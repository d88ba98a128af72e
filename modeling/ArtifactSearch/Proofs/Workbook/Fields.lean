import ArtifactSearch.Proofs.Export.Columns
import ArtifactSearch.Proofs.Profile
import ArtifactSearch.Proofs.Workbook.Limits

/-!
# ArtifactSearch.Proofs.Workbook.Fields

**The sheet with the profiles lists those of the represented indexes, one after the
other** (`Store.fields_sheet`). Below its headings a sheet of a report shows the rows of its
table, each cell as it was given (`Sheet.Report.seen_drop_visible`), so that the sheet is
the three nested lists of the profiles, put end to end. Which indexes are represented
depends on the results, but their profiles are those of all their records.
-/

namespace ArtifactSearch

namespace Sheet

variable {sheet : Sheet} {name : Text} {columns : List ColumnSpec} {rows : List (List Value)}

/-- What a row shows, apart from looks. -/
def seen (cells : List (Option Cell)) : List (Option (Value × CellKind)) :=
  cells.map (Option.map fun cell => (cell.value, cell.kind))

theorem border_data (kind : ColumnKind) (row : Int) (style : Style) :
    (Style.data kind row style).border = style.border := by
  unfold Style.data
  cases kind <;> dsimp only <;> split <;> rfl

/-- A value of a table is to be seen by its border at least. -/
theorem isInvisible_putData (kind : ColumnKind) (row : Int) (value : Value) :
    (putData kind row value .blank).isInvisible = false := by
  have hstyle : (putData kind row value .blank).style ≠ .plain := by
    intro hplain
    have hborder := congrArg Style.border hplain
    rw [putData, border_data] at hborder
    exact absurd hborder (by decide)
  have hfree : (putData kind row value .blank).covered = false := rfl
  simp [Cell.isInvisible, hstyle, hfree]

/-- Below the headings there are the rows of the table, and nothing else. -/
theorem Report.drop_visible (h : sheet.Report name columns rows)
    (hwhole : ∀ values ∈ rows, values.length = columns.length) :
    sheet.visible.drop 4 = (dataRows (columns.map ColumnSpec.kind) 5 rows).map (List.map some) := by
  apply List.ext_getElem?
  intro i
  rw [List.getElem?_drop, List.getElem?_map]
  cases hi : rows[i]? with
  | none =>
      have hbehind := List.getElem?_eq_none_iff.mp hi
      rw [List.getElem?_eq_none (by rw [h.length_visible]; omega),
        List.getElem?_eq_none (by simpa [dataRows] using hbehind)]
      rfl
  | some values =>
      have hrow : (dataRows (columns.map ColumnSpec.kind) 5 rows)[i]?
          = some (dataRow (columns.map ColumnSpec.kind) (5 + i) values) := by
        simp [dataRows, List.getElem?_zipIdx, hi]
      have htable : (tableRows 4 columns rows)[i + 1]?
          = some (dataRow (columns.map ColumnSpec.kind) (5 + i) values) := hrow
      have hlength : (dataRow (columns.map ColumnSpec.kind) (5 + i) values).length
          = columns.length := by
        simp [dataRow, hwhole values (List.mem_of_getElem? hi)]
      have hseen : ∀ cell ∈ dataRow (columns.map ColumnSpec.kind) (5 + i) values,
          cell.isInvisible = false :=
        List.forall_mem_map.mpr fun v _ => isInvisible_putData v.1 _ v.2
      rw [show 4 + i = 3 + (i + 1) by omega, h.visible htable hlength hseen, hrow, Option.map_some]

/-- Each value is shown as a cell of its column holds it, whatever row it is in. -/
theorem Report.seen_drop_visible (h : sheet.Report name columns rows)
    (hwhole : ∀ values ∈ rows, values.length = columns.length) :
    (sheet.visible.drop 4).map seen = rows.map fun values =>
      ((columns.map ColumnSpec.kind).zip values).map fun v => some (entry v.1 v.2) := by
  have hcell : ∀ (row : Nat) (values : List Value),
      seen ((dataRow (columns.map ColumnSpec.kind) row values).map some)
        = ((columns.map ColumnSpec.kind).zip values).map fun v => some (entry v.1 v.2) := by
    intro row values
    simp only [seen, dataRow, List.map_map]
    rfl
  rw [h.drop_visible hwhole, List.map_map, dataRows, List.map_map]
  conv_rhs => rw [← List.zipIdx_map_fst 5 rows, List.map_map]
  exact List.map_congr_left fun e _ => hcell e.2 e.1

end Sheet

namespace Report

open Sheet

variable {store : Store} {hits : List (Hit Text)}

/-! ### The table of the profiles -/

/-- The row of the sheet for a value that a profile reports: three texts and a number. -/
def shownRow (name column value : Text) (count : Nat) : List (Option (Value × CellKind)) :=
  [name, column, value].map (fun s => some (.text (plainText (.text s)), .text))
    ++ [some (.number count, .number)]

theorem shown_profileRows (store : Store) (hits : List (Hit Text)) :
    ((profileRows store hits).map fun values =>
        ((profileColumns.map ColumnSpec.kind).zip values).map fun v => some (entry v.1 v.2))
      = (Export.represented hits).flatMap fun name =>
          (store.profiles name).flatMap fun profile =>
            profile.top.map fun entry => shownRow name profile.column entry.1 entry.2 := by
  rw [profileRows]
  simp only [List.map_flatMap, List.map_map]
  rfl

end Report

namespace Store

open Sheet

/-- **The sheet with the profiles.** Whatever a store holds and whatever its query is, its
results make a workbook exactly if they fit into sheets. Below the headings of its second
sheet there is one row for each value that the profiles report: the indexes that occur in the
results come in order of first occurrence, each with its columns in their order, each with its
values in the order of its profile. The texts are without control characters and cut to what a
cell can hold, the count is a number, and it counts the records of the whole index, whether
they are among the results or not. There are no other rows. -/
theorem fields_sheet {store : Store} (h : store.Reachable) :
    let hits := store.results
    let names := Export.represented hits
    ((∃ book, Report.workbook store hits = .ok book) ↔ Report.Fits store hits) ∧
    (names.Nodup ∧ (∀ name, name ∈ names ↔ ∃ hit ∈ hits, hit.index = name) ∧
      names.Pairwise fun a b => (hits.map Hit.index).idxOf a < (hits.map Hit.index).idxOf b) ∧
    (∀ name ∈ names, ∃ index, store.indexes.get? name = some index ∧ index.name = name ∧
      (store.profiles name).map Profile.column = index.columns ∧
      ∀ profile ∈ store.profiles name, ∀ value count, (value, count) ∈ profile.top →
        count = (index.records.filter fun record =>
          record.get? profile.column = some value).length) ∧
    ∀ book, Report.workbook store hits = .ok book →
      ∃ results fields : Sheet, book.sheets = [results, fields] ∧ fields.title = "Fields".toList ∧
        (fields.visible.drop 4).map seen =
          names.flatMap fun name => (store.profiles name).flatMap fun profile =>
            profile.top.map fun entry =>
              Report.shownRow name profile.column entry.1 entry.2 := by
  intro hits names
  have hwell : store.indexes.WellFormed := h.wellFormed
  have hbelong : Export.Belong store.indexes hits :=
    Export.belong_hits hwell (Query.read store.query)
  have hordered : names.Pairwise fun a b =>
      (hits.map Hit.index).idxOf a < (hits.map Hit.index).idxOf b := by
    have hseen := Entries.pairwise_idxOf_eraseDups (fun _ => true) (hits.map Hit.index)
    rwa [List.filter_true] at hseen
  refine ⟨Report.workbook_ok_iff, ⟨Entries.nodup_eraseDups _, fun name => ?_, hordered⟩,
    fun name hname => ?_, fun book hbook => ?_⟩
  · rw [← List.mem_map]
    exact List.mem_eraseDups
  · obtain ⟨hit, hhit, rfl⟩ := List.mem_map.mp (List.mem_eraseDups.mp hname)
    obtain ⟨index, hget, -⟩ := hbelong hit hhit
    have hprofiles : store.profiles hit.index
        = Profile.ofRecords Profile.defaultLimit index.columns index.records := by
      rw [profiles, hget]
    refine ⟨index, hget, hwell.name _ _ (Entries.mem_of_get? hget), ?_⟩
    rw [hprofiles]
    exact ⟨Profile.map_column_ofRecords _ _ _, fun profile hprofile value count htop =>
      (Profile.mem_top_of_mem_ofRecords hprofile htop).2⟩
  · have hfits := Report.fits_of_workbook hbook
    obtain ⟨results, fields, hmade, -, hfields⟩ :=
      Report.exists_workbook hfits.width hfits.height hfits.profiles
    cases hbook.symm.trans hmade
    refine ⟨results, fields, rfl, hfields.title, ?_⟩
    rw [hfields.seen_drop_visible (Report.fitting_profiles hfits.profiles).whole,
      Report.shown_profileRows]

/-- Of three indexes one has no result, and a value of another is counted without being among
the results. -/
theorem fields_sheet_partial :
    let store := (empty 100).applyAll
      [.ingest "b.csv".toList "f\nx\n=y\x07\nx".toList, .ingest "a.csv".toList "g\nz".toList,
        .ingest "c.csv".toList "h\nx".toList, .setQuery "x".toList]
    store.Reachable ∧ ∃ book results fields,
      Report.workbook store store.results = .ok book ∧ book.sheets = [results, fields] ∧
        (fields.visible.drop 4).map seen =
          [Report.shownRow "b".toList "f".toList "x".toList 2,
            Report.shownRow "b".toList "f".toList "=y".toList 1,
            Report.shownRow "c".toList "h".toList "x".toList 1] := by
  intro store
  have h : store.Reachable := ⟨100, _, rfl⟩
  have hresults : store.results = [⟨"b".toList, [("f".toList, "x".toList)]⟩,
      ⟨"b".toList, [("f".toList, "x".toList)]⟩, ⟨"c".toList, [("h".toList, "x".toList)]⟩] := by
    decide +kernel
  have hnames : Export.represented store.results = ["b".toList, "c".toList] := by
    rw [hresults]
    decide
  have hfirst : store.profiles "b".toList
      = [⟨"f".toList, [("x".toList, 2), ("=y\x07".toList, 1)]⟩] := by
    have hget : store.indexes.get? "b".toList = some ⟨"b".toList, ["f".toList],
        [[("f".toList, "x".toList)], [("f".toList, "=y\x07".toList)], [("f".toList, "x".toList)]],
        "b.csv".toList⟩ := by decide +kernel
    have htop : Profile.topValues Profile.defaultLimit
        ["x".toList, "=y\x07".toList, "x".toList] = [("x".toList, 2), ("=y\x07".toList, 1)] :=
      (Profile.topValues_of_sorted (by decide)).trans (by decide)
    rw [Store.profiles, hget]
    exact congrArg (fun top => [Profile.mk "f".toList top]) htop
  have hsecond : store.profiles "c".toList = [⟨"h".toList, [("x".toList, 1)]⟩] := by
    have hget : store.indexes.get? "c".toList = some ⟨"c".toList, ["h".toList],
        [[("h".toList, "x".toList)]], "c.csv".toList⟩ := by decide +kernel
    have htop : Profile.topValues Profile.defaultLimit ["x".toList] = [("x".toList, 1)] :=
      (Profile.topValues_of_sorted (by decide)).trans (by decide)
    rw [Store.profiles, hget]
    exact congrArg (fun top => [Profile.mk "h".toList top]) htop
  have hfits : Report.Fits store store.results := by
    refine ⟨?_, ?_, ?_⟩
    · rw [hresults]
      decide +kernel
    · rw [hresults]
      decide
    · rw [Report.profileRows, hnames]
      simp only [List.flatMap_cons, List.flatMap_nil, hfirst, hsecond]
      decide
  obtain ⟨hmade, -, -, hsheets⟩ := fields_sheet h
  obtain ⟨book, hbook⟩ := hmade.mpr hfits
  obtain ⟨results, fields, htwo, -, hrows⟩ := hsheets book hbook
  refine ⟨h, book, results, fields, hbook, htwo, ?_⟩
  rw [hrows, hnames]
  simp only [List.flatMap_cons, List.flatMap_nil, hfirst, hsecond]
  decide

end Store

end ArtifactSearch
