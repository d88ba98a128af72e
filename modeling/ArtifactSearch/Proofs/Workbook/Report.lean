import ArtifactSearch.Proofs.Workbook.Table
import ArtifactSearch.Workbook.Report
import Mathlib.Data.List.Forall2

/-!
# ArtifactSearch.Proofs.Workbook.Report

**Sheets of reports.** Both sheets of a report are made in the same three steps: a sheet
is added, a title block is written, and a table below it (`build_report`). What is to be
seen of such a sheet are the rows of its table as they were written, with nothing beside
or below them (`Sheet.Report.visible`).
-/

namespace ArtifactSearch

/-! ### Frames without gaps -/

theorem Frame.ofRows_of_length {α : Type} {blank : α} {columns : List Text}
    {rows : List (List α)} (hne : columns ≠ []) (h : ∀ row ∈ rows, row.length = columns.length) :
    Frame.ofRows blank columns rows = .ok ⟨columns, rows⟩ := by
  unfold Frame.ofRows
  cases rows with
  | nil => simp
  | cons row rest =>
      have hlargest : ((row :: rest).map List.length).foldl max 0 = columns.length := by
        apply Nat.le_antisymm
        · rw [Frame.largest_le_iff]
          refine ⟨Nat.zero_le _, fun n hn => ?_⟩
          obtain ⟨row, hrow, rfl⟩ := List.mem_map.mp hn
          exact Nat.le_of_eq (h row hrow)
        · rw [← h row List.mem_cons_self]
          exact (Frame.largest_le_iff.mp (Nat.le_refl _)).2 _ List.mem_cons_self
      have hkept : (row :: rest).map (List.rightpad columns.length blank) = row :: rest := by
        refine (List.map_congr_left fun cells hcells => ?_).trans (List.map_id _)
        rw [List.rightpad, h cells hcells, Nat.sub_self, List.replicate_zero, List.append_nil]
        rfl
      simp only [hlargest, hkept]
      simp [hne]

/-- A frame of its own columns without gaps is taken as it is. -/
theorem TableData.rows_frame (columns : List ColumnSpec) {names : List Text}
    {cells : List (List Value)} (hne : names ≠ [])
    (h : ∀ values ∈ cells, values.length = names.length) :
    rows columns (.frame names cells) = .ok cells := by
  rw [rows, Frame.ofRows_of_length hne h]
  rfl

namespace Sheet

/-- A sheet with a title block and a table below it. -/
structure Report (sheet : Sheet) (name : Text) (columns : List ColumnSpec)
    (rows : List (List Value)) : Prop where
  title : sheet.title = name
  table : ∃ first second, first.length = columns.length ∧ second.length = columns.length ∧
    sheet.rows = [first, second, []] ++ tableRows 4 columns rows
  /-- What is merged is above the table. -/
  merged : ∀ range ∈ sheet.merged, range.row < 4

/-- What makes a table fit into a sheet of a report. -/
structure Fitting (columns : List ColumnSpec) (rows : List (List Value)) : Prop where
  width : 0 < columns.length ∧ columns.length ≤ lastColumn
  height : 4 + rows.length ≤ lastRow
  /-- Each row has a value for each column. -/
  whole : ∀ values ∈ rows, values.length = columns.length
  fits : ∀ values ∈ rows, ∀ v ∈ (columns.map ColumnSpec.kind).zip values, Fits v.1 v.2

variable {sheet : Sheet} {name : Text} {columns : List ColumnSpec} {rows : List (List Value)}

theorem Fitting.rowsFit (h : Fitting columns rows) :
    RowsFit (columns.map ColumnSpec.kind) rows where
  occupied := by
    intro values hmem hnil
    have hlength := congrArg List.length hnil
    have hwidth := h.width
    rw [List.length_zip, List.length_map, h.whole values hmem, Nat.min_self, List.length_nil]
      at hlength
    omega
  fits := h.fits

/-! ### What is to be seen -/

theorem Report.columnCount (h : sheet.Report name columns rows) :
    sheet.columnCount = columns.length := by
  obtain ⟨first, second, hfirst, hsecond, hrows⟩ := h.table
  rw [Sheet.columnCount, hrows]
  apply Nat.le_antisymm
  · rw [Frame.largest_le_iff]
    refine ⟨Nat.zero_le _, List.forall_mem_map.mpr fun cells hmem => ?_⟩
    rcases List.mem_append.mp hmem with hmem | hmem
    · simp only [List.mem_cons, List.not_mem_nil, or_false] at hmem
      rcases hmem with rfl | rfl | rfl
      · exact Nat.le_of_eq hfirst
      · exact Nat.le_of_eq hsecond
      · exact Nat.zero_le _
    · exact length_le_of_mem_tableRows hmem
  · rw [← hfirst]
    exact (Frame.largest_le_iff.mp (Nat.le_refl _)).2 _ List.mem_cons_self

theorem Report.length_visible (h : sheet.Report name columns rows) :
    sheet.visible.length = 4 + rows.length := by
  obtain ⟨first, second, -, -, hrows⟩ := h.table
  rw [Sheet.visible, hrows, if_neg (by simp), List.length_map]
  simp [tableRows, dataRows]
  omega

/-- A row of the table that has a cell with something in it for each column is to be seen
as it is. -/
theorem Report.visible (h : sheet.Report name columns rows) {i : Nat} {cells : List Cell}
    (hi : (tableRows 4 columns rows)[i]? = some cells) (hlength : cells.length = columns.length)
    (hseen : ∀ cell ∈ cells, cell.isInvisible = false) :
    sheet.visible[3 + i]? = some (cells.map some) := by
  obtain ⟨first, second, -, -, hrows⟩ := h.table
  have hrow : sheet.rows[3 + i]? = some cells := by
    rw [hrows, List.getElem?_append_right (by simp)]
    simpa using hi
  have hnonempty : ¬ sheet.rows.isEmpty := by simp [hrows]
  rw [Sheet.visible, if_neg hnonempty, List.getElem?_map, hrow, Option.map_some,
    h.columnCount, ← hlength, List.rightpad, List.length_map, Nat.sub_self, List.replicate_zero,
    List.append_nil]
  congr 1
  exact List.map_congr_left fun cell hmem => if_neg (by simp [hseen cell hmem])

/-! ### Tables of texts -/

/-- A cell to be seen with a text in it. -/
structure Holds (s : Text) (cell : Cell) : Prop where
  value : cell.value = .text (plainText (.text s))
  kind : cell.kind = .text
  free : cell.covered = false

theorem Holds.isInvisible {s : Text} {cell : Cell} (h : Holds s cell) :
    cell.isInvisible = false := by
  simp [Cell.isInvisible, h.value, h.free]

theorem isInvisible_of_holds {line : List Text} {cells : List Cell}
    (h : List.Forall₂ Holds line cells) : ∀ cell ∈ cells, cell.isInvisible = false := by
  induction h with
  | nil => simp
  | cons hfirst _ ih => exact List.forall_mem_cons.mpr ⟨hfirst.isInvisible, ih⟩

theorem holds_headerRow (columns : List ColumnSpec) :
    List.Forall₂ Holds (columns.map ColumnSpec.label) (headerRow columns) := by
  rw [headerRow, List.forall₂_map_left_iff, List.forall₂_map_right_iff, List.forall₂_same]
  exact fun column _ => ⟨rfl, rfl, rfl⟩

theorem holds_putData {kind : ColumnKind} (hkind : kind ≠ .number) (row : Int) (s : Text) :
    Holds s (putData kind row (.text s) .blank) := by
  cases kind with
  | number => exact absurd rfl hkind
  | text => exact ⟨rfl, rfl, rfl⟩
  | index => exact ⟨rfl, rfl, rfl⟩

theorem holds_dataRow {kinds : List ColumnKind} (hkinds : ∀ kind ∈ kinds, kind ≠ .number)
    (row : Nat) {texts : List Text} (hlength : texts.length = kinds.length) :
    List.Forall₂ Holds texts (dataRow kinds row (texts.map .text)) := by
  induction kinds generalizing texts with
  | nil =>
      rw [List.length_nil, List.length_eq_zero_iff] at hlength
      rw [hlength]
      exact .nil
  | cons kind rest ih =>
      cases texts with
      | nil => cases hlength
      | cons s texts =>
          exact .cons (holds_putData (hkinds kind List.mem_cons_self) row s)
            (ih (fun next hnext => hkinds next (List.mem_cons_of_mem _ hnext))
              (Nat.succ.inj hlength))

/-- Without a column of numbers, a table of texts is to be seen as it is: its headings in
the fourth row, and each of its rows below them. -/
theorem Report.visible_texts {texts : List (List Text)}
    (h : sheet.Report name columns (texts.map fun row => row.map .text))
    (hkinds : ∀ column ∈ columns, column.kind ≠ .number)
    (hlength : ∀ row ∈ texts, row.length = columns.length) {i : Nat} {line : List Text}
    (hi : (columns.map ColumnSpec.label :: texts)[i]? = some line) :
    ∃ cells : List Cell, sheet.visible[3 + i]? = some (cells.map some) ∧
      List.Forall₂ Holds line cells := by
  have hrow : ∃ cells,
      (tableRows 4 columns (texts.map fun row => row.map .text))[i]? = some cells ∧
        cells.length = columns.length ∧ List.Forall₂ Holds line cells := by
    cases i with
    | zero =>
        cases hi
        exact ⟨_, rfl, List.length_map _, holds_headerRow columns⟩
    | succ i =>
        have hi : texts[i]? = some line := hi
        have hline := hlength line (List.mem_of_getElem? hi)
        refine ⟨dataRow (columns.map ColumnSpec.kind) (5 + i) (line.map .text), ?_, ?_, ?_⟩
        · simp [tableRows, dataRows, List.getElem?_zipIdx, hi]
        · simp [dataRow, hline]
        · exact holds_dataRow (List.forall_mem_map.mpr hkinds) _ (by simpa using hline)
  obtain ⟨cells, hcells, hwidth, hholds⟩ := hrow
  exact ⟨cells, h.visible hcells hwidth (isInvisible_of_holds hholds), hholds⟩

end Sheet

namespace Workbook

variable {before : List Sheet} {number : Int}

theorem position?_last (hnumber : number = before.length) (sheet : Sheet) :
    (⟨before ++ [sheet]⟩ : Workbook).position? number = some before.length := by
  have hpositive : ¬ (before.length : Int) < 0 := by omega
  have hlast : (before.length : Int) < before.length + 1 := by omega
  subst hnumber
  simp [position?, hpositive, hlast]

theorem editSheet_last {α : Type} (hnumber : number = before.length) {sheet next : Sheet} {a : α}
    {edit : Sheet.Edit α} (h : Sheet.Edit.apply edit sheet = (.ok a, next))
    (outcome : α → Outcome) :
    (⟨before ++ [sheet]⟩ : Workbook).editSheet number edit outcome
      = (.ok (outcome a), ⟨before ++ [next]⟩) := by
  unfold editSheet
  rw [position?_last hnumber]
  dsimp only
  rw [List.getElem?_concat_length]
  dsimp only
  rw [h, List.set_append_right _ _ (Nat.le_refl _), Nat.sub_self]
  rfl

theorem build_of_ok {book next : Workbook} {first : Step} {outcome : Outcome}
    (h : book.step first = (.ok outcome, next)) (rest : List Step) :
    book.build (first :: rest) = next.build rest := by
  rw [build, h]

theorem build_report (before : List Sheet) (hnumber : number = before.length) {name : Text}
    (hname : (⟨before⟩ : Workbook).titleFor name = .ok name) (title subtitle : Value)
    {columns : List ColumnSpec} {data : TableData} {rows : List (List Value)}
    (hrows : data.rows columns = .ok rows) (hfitting : Sheet.Fitting columns rows)
    (rest : List Step) :
    ∃ sheet : Sheet, sheet.Report name columns rows ∧
      build ⟨before⟩ ([.addSheet name, .title number title subtitle columns.length,
        .table number Sheet.rowAfterTitle columns data true] ++ rest)
        = build ⟨before ++ [sheet]⟩ rest := by
  have hwidth := hfitting.width
  have hheight := hfitting.height
  obtain ⟨first, second, merged, htitle, hfirst, hsecond, hmerged⟩ :=
    Sheet.apply_writeTitle name title subtitle hwidth.1 hwidth.2
  have hnarrow : ∀ cells ∈ [first, second], cells.length ≤ Sheet.lastColumn := by
    simp only [List.forall_mem_cons, hfirst, hsecond]
    exact ⟨hwidth.2, hwidth.2, nofun⟩
  let titled : Sheet := { Sheet.empty name with rows := [first, second], merged := merged }
  obtain ⟨widths, htable⟩ := Sheet.apply_writeTable_below titled (show 2 < 4 by decide)
    (List.length_pos_iff.mp hwidth.1) hwidth.2 hnarrow hfitting.rowsFit hheight (by decide)
  let written : Sheet := { titled with
    rows := [first, second, []] ++ Sheet.tableRows 4 columns rows
    widths := widths
    frozen := some (5, 2) }
  refine ⟨written, ⟨rfl, ⟨first, second, hfirst, hsecond, rfl⟩, fun range hmem => ?_⟩, ?_⟩
  · exact Nat.lt_of_le_of_lt (hmerged range hmem) (by decide)
  · have hadded : step ⟨before⟩ (.addSheet name)
        = (.ok (.title name), ⟨before ++ [Sheet.empty name]⟩) := by
      rw [step, hname]
    have htitled : step ⟨before ++ [Sheet.empty name]⟩
          (.title number title subtitle columns.length)
        = (.ok (.nextRow Sheet.rowAfterTitle), ⟨before ++ [titled]⟩) :=
      editSheet_last hnumber htitle .nextRow
    have hwritten : step ⟨before ++ [titled]⟩
          (.table number Sheet.rowAfterTitle columns data true)
        = (.ok (.nextRow (4 + 1 + rows.length)), ⟨before ++ [written]⟩) := by
      rw [step, addTable, position?_last hnumber, hrows]
      exact editSheet_last hnumber htable .nextRow
    rw [List.cons_append, build_of_ok hadded, List.cons_append, build_of_ok htitled,
      List.cons_append, build_of_ok hwritten, List.nil_append]

end Workbook

end ArtifactSearch
