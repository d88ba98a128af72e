import ArtifactSearch.Proofs.Workbook.Rows

/-!
# ArtifactSearch.Proofs.Workbook.Table

**Title blocks and tables.** On a sheet without cells, a title block takes the first two
rows, over the width that it is given (`apply_writeTitle`). Below everything that a sheet
has, writing a table succeeds within the limits of a sheet and puts the rows of the
table behind those that are there (`apply_writeTable_below`). Nothing in it depends on
what the values are, but in columns of numbers.
-/

namespace ArtifactSearch.Sheet

variable {sheet : Sheet}

/-! ### Column widths -/

/-- Widths of no more than sixty characters are doubles. -/
theorem isSome_width?_default (length : Nat) :
    (WidthLimits.default.width? length).isSome = true := by
  have hsmall : ∀ n ∈ List.range 61, (Double.nearestInteger? n).isSome = true := by
    decide +kernel
  have hmem : min (max (length + 2) 10) 60 ∈ List.range 61 := by
    rw [List.mem_range]
    omega
  have hwidth : WidthLimits.default.width? length
      = Double.nearestInteger? (min (max (length + 2) 10) 60 : Nat) := by
    show Double.nearestInteger? (min (max (length + 2 : Int) 10) 60) = _
    congr 1
    omega
  rw [hwidth]
  exact hsmall _ hmem

theorem exists_mapM_width? (lengths : List Nat) :
    ∃ widths, lengths.mapM WidthLimits.default.width? = some widths := by
  induction lengths with
  | nil => exact ⟨[], rfl⟩
  | cons length rest ih =>
      obtain ⟨width, hwidth⟩ := Option.isSome_iff_exists.mp (isSome_width?_default length)
      obtain ⟨widths, hwidths⟩ := ih
      exact ⟨width :: widths, by rw [List.mapM_cons, hwidth, hwidths]; rfl⟩

theorem length_maxima (a b : List Nat) : (maxima a b).length = max a.length b.length := by
  induction a generalizing b with
  | nil => rw [maxima, List.length_nil, Nat.zero_max]
  | cons n rest ih =>
      cases b with
      | nil => rfl
      | cons m others =>
          rw [maxima, List.length_cons, List.length_cons, List.length_cons, ih]
          omega

theorem length_foldl_maxima_le {bound : Nat} {rows : List (List Nat)} {start : List Nat}
    (hstart : start.length ≤ bound) (hrows : ∀ lengths ∈ rows, lengths.length ≤ bound) :
    (rows.foldl maxima start).length ≤ bound := by
  induction rows generalizing start with
  | nil => exact hstart
  | cons lengths rest ih =>
      refine ih ?_ fun next hnext => hrows next (List.mem_cons_of_mem _ hnext)
      rw [length_maxima]
      exact Nat.max_le.mpr ⟨hstart, hrows lengths List.mem_cons_self⟩

theorem length_longest_le {bound : Nat} (h : ∀ cells ∈ sheet.rows, cells.length ≤ bound) :
    sheet.longest.length ≤ bound :=
  length_foldl_maxima_le (Nat.zero_le _) (by simpa using h)

theorem apply_fitWidths (sheet : Sheet) (h : ∀ cells ∈ sheet.rows, cells.length ≤ lastColumn) :
    ∃ widths, Edit.apply (fitWidths .default) sheet
      = (.ok (), { sheet with widths := widths }) := by
  obtain ⟨widths, hwidths⟩ := exists_mapM_width? (sheet.longest.take lastColumn)
  refine ⟨widths, ?_⟩
  unfold fitWidths
  rw [Edit.apply_bind_of_ok (Edit.apply_get sheet)]
  dsimp only
  rw [hwidths]
  dsimp only
  rw [Edit.apply_bind_of_ok (Edit.apply_modify _ sheet),
    if_neg (Nat.not_lt.mpr (length_longest_le h))]
  rfl

theorem apply_freeze {row : Int} (h : 0 ≤ row) (hmeasure : Double.nearestInteger? (row - 1) ≠ none)
    (sheet : Sheet) :
    Edit.apply (freeze row) sheet = (.ok (), { sheet with frozen := some (row, 2) }) := by
  unfold freeze
  rw [if_neg (by omega), if_neg (by simpa using hmeasure)]
  rfl

/-! ### Tables -/

/-- The row with the headings of a table. -/
def headerRow (columns : List ColumnSpec) : List Cell :=
  columns.map fun column =>
    ⟨.text (plainText (.text column.label)), .text, Style.plain.header, false⟩

/-- The rows of a table that is written from a row on. -/
def tableRows (start : Nat) (columns : List ColumnSpec) (rows : List (List Value)) :
    List (List Cell) :=
  headerRow columns :: dataRows (columns.map ColumnSpec.kind) (start + 1) rows

theorem length_le_of_mem_tableRows {start : Nat} {columns : List ColumnSpec}
    {rows : List (List Value)} {cells : List Cell} (h : cells ∈ tableRows start columns rows) :
    cells.length ≤ columns.length := by
  rcases List.mem_cons.mp h with rfl | hdata
  · exact Nat.le_of_eq (List.length_map _)
  · obtain ⟨entry, -, rfl⟩ := List.mem_map.mp hdata
    rw [dataRow, List.length_map, List.length_zip, List.length_map]
    exact Nat.min_le_left _ _

theorem apply_styleHeader_last (sheet : Sheet) {before : List (List Cell)}
    (hlimit : before.length < lastRow) (cells : List Cell) :
    Edit.apply (styleHeader (before.length + 1 : Nat) 1 cells.length)
        { sheet with rows := before ++ [cells] } =
      (.ok (), { sheet with rows := before ++
        [cells.map fun cell => { cell with style := cell.style.header }] }) := by
  have hwithin : Within (before.length + 1) 1 := ⟨by omega, by omega⟩
  have hrows : { sheet with rows := before ++ [cells] }.rows = before ++ [[] ++ cells] := rfl
  have hlast := fillRow_last hrows
    (List.replicate cells.length fun cell => { cell with style := cell.style.header })
  rw [overlay_replicate, List.nil_append, List.length_nil, Nat.zero_add] at hlast
  have hstyle := apply_styleHeader hwithin { sheet with rows := before ++ [cells] } cells.length
  rw [hlast] at hstyle
  exact hstyle

/-- The headings are written first and get their look in a second pass. -/
theorem apply_header_below {start : Nat} {columns : List ColumnSpec}
    (hbelow : sheet.rows.length < start) (hlimit : start ≤ lastRow) (hne : columns ≠ []) :
    ∃ labelled,
      Edit.apply (writeTexts start 1 (columns.map ColumnSpec.label)) sheet
        = (.ok (), labelled) ∧
      Edit.apply (styleHeader start 1 columns.length) labelled
        = (.ok (), { sheet with
          rows := sheet.rows.rightpad (start - 1) [] ++ [headerRow columns] }) := by
  have hlength : (sheet.rows.rightpad (start - 1) []).length + 1 = start := by
    rw [List.length_rightpad]
    omega
  have hwithin : Within start 1 := ⟨by omega, by omega⟩
  have htexts := apply_writeTexts hwithin (free_below hbelow 1) (columns.map ColumnSpec.label)
  rw [fillRow_below hbelow (by simpa using hne), List.map_map, List.map_map] at htexts
  have hstyle := apply_styleHeader_last sheet
    (by omega : (sheet.rows.rightpad (start - 1) []).length < lastRow)
    (columns.map fun column => put (.text (plainText (.text column.label))) .text .blank)
  rw [hlength, List.length_map, List.map_map] at hstyle
  exact ⟨_, htexts, hstyle⟩

theorem apply_writeTable_below (sheet : Sheet) {start : Nat} {columns : List ColumnSpec}
    {rows : List (List Value)} (hbelow : sheet.rows.length < start) (hne : columns ≠ [])
    (hcolumns : columns.length ≤ lastColumn)
    (hwidth : ∀ cells ∈ sheet.rows, cells.length ≤ lastColumn)
    (hfit : RowsFit (columns.map ColumnSpec.kind) rows) (hlimit : start + rows.length ≤ lastRow)
    (hmeasure : Double.nearestInteger? start ≠ none) :
    ∃ widths, Edit.apply (writeTable start columns rows true) sheet =
      (.ok (start + 1 + rows.length), { sheet with
        rows := sheet.rows.rightpad (start - 1) [] ++ tableRows start columns rows
        widths := widths
        frozen := some (start + 1, 2) }) := by
  obtain ⟨labelled, hlabels, hheader⟩ := apply_header_below hbelow (by omega) hne
  generalize hbefore : sheet.rows.rightpad (start - 1) [] = before at hheader
  have hlength : (before ++ [headerRow columns]).length = start := by
    rw [← hbefore, List.length_append, List.length_singleton, List.length_rightpad]
    omega
  have hrows : Edit.apply (writeRows (columns.map ColumnSpec.kind) (start + 1) rows)
      { sheet with rows := before ++ [headerRow columns] } =
        (.ok (), { sheet with rows := before ++ tableRows start columns rows }) := by
    have hwritten := apply_writeRows_below sheet (before ++ [headerRow columns]) hfit (by omega)
    rw [hlength, List.append_assoc] at hwritten
    exact hwritten
  have hfitting : ∀ cells ∈ before ++ tableRows start columns rows, cells.length ≤ lastColumn := by
    intro cells hmem
    rcases List.mem_append.mp hmem with hmem | hmem
    · rw [← hbefore, List.rightpad, List.mem_append] at hmem
      rcases hmem with hmem | hmem
      · exact hwidth cells hmem
      · rw [List.eq_of_mem_replicate hmem]
        exact Nat.zero_le _
    · exact Nat.le_trans (length_le_of_mem_tableRows hmem) hcolumns
  obtain ⟨widths, hwidths⟩ :=
    apply_fitWidths { sheet with rows := before ++ tableRows start columns rows } hfitting
  refine ⟨widths, ?_⟩
  unfold writeTable
  rw [Edit.apply_bind_of_ok hlabels, Edit.apply_bind_of_ok hheader, Edit.apply_bind_of_ok hrows,
    Edit.apply_bind_of_ok hwidths]
  dsimp only
  rw [if_pos rfl, Edit.apply_bind_of_ok (apply_freeze (by omega) (by simpa using hmeasure) _)]
  rfl

/-! ### Title blocks -/

/-- A cell with a line of a title block. -/
def heading (font : Font) (value : Value) : Cell :=
  ⟨.text (plainText value), .text, { Style.plain with font := font }, false⟩

theorem apply_heading (sheet : Sheet) (before : List (List Cell)) {row : Int}
    (hrow : row = (before.length + 1 : Nat)) (hlimit : before.length < lastRow) (font : Font)
    (value : Value) :
    ∃ written,
      Edit.apply (writeText row 1 value) { sheet with rows := before } = (.ok (), written) ∧
      Edit.apply (restyle row 1 fun style => { style with font := font }) written
        = (.ok (), { sheet with rows := before ++ [[heading font value]] }) := by
  subst hrow
  have hwithin : Within (before.length + 1) 1 := ⟨by omega, by omega⟩
  have hbelow : { sheet with rows := before }.rows.length < before.length + 1 :=
    Nat.lt_add_one _
  have hwritten := fillRow_below hbelow
    (List.cons_ne_nil (put (.text (plainText value)) .text) [])
  rw [Nat.add_sub_cancel, List.rightpad, Nat.sub_self, List.replicate_zero, List.append_nil,
    fillRow, fillRow] at hwritten
  have hrows : { sheet with
      rows := before ++ [[put (.text (plainText value)) .text .blank]] }.rows
        = before ++ [[] ++ [put (.text (plainText value)) .text .blank]] := rfl
  have hlast := update_last hrows
    (fun cell => { cell with style := { cell.style with font := font } })
  rw [List.length_nil, Nat.zero_add] at hlast
  refine ⟨_, apply_writeText hwithin (free_below hbelow 1 1 (Nat.le_refl _)) value, ?_⟩
  rw [hwritten]
  exact (apply_restyle hwithin _ _).trans (congrArg _ hlast)

theorem length_mergedCells {columns : Nat} (h : 1 < columns) (cell : Cell) :
    (mergedCells columns [cell]).length = columns := by
  have hcells : [cell].rightpad columns .blank = cell :: List.replicate (columns - 1) .blank := by
    rw [List.rightpad]
    rfl
  unfold mergedCells
  rw [hcells]
  simp
  omega

theorem mem_merge {columns row : Nat} {range : MergedRow}
    (h : range ∈ (sheet.merge row columns).merged) : range ∈ sheet.merged ∨ range.row = row := by
  unfold merge at h
  dsimp only at h
  split at h
  · exact .inl h
  · rcases List.mem_append.mp h with h | h
    · exact .inl h
    · rw [List.mem_singleton.mp h]
      exact .inr rfl

theorem row_le_of_mem_merge_merge (sheet : Sheet) (columns : Nat) (h : sheet.merged = []) :
    ∀ range ∈ ((sheet.merge 1 columns).merge 2 columns).merged, range.row ≤ 2 := by
  intro range hmem
  rcases mem_merge hmem with hmem | hrow
  · rcases mem_merge hmem with hmem | hrow
    · rw [h] at hmem
      cases hmem
    · omega
  · omega

/-- A title block on a sheet without cells: two rows of the given width, and nothing
else is merged than these. -/
theorem apply_writeTitle (name : Text) (title subtitle : Value) {columns : Nat}
    (hpos : 0 < columns) (hlimit : columns ≤ lastColumn) :
    ∃ first second merged, Edit.apply (writeTitle title subtitle columns) (empty name) =
        (.ok rowAfterTitle, { empty name with rows := [first, second], merged := merged }) ∧
      first.length = columns ∧ second.length = columns ∧ ∀ range ∈ merged, range.row ≤ 2 := by
  have hlimits : 0 < lastRow ∧ 1 < lastRow := by decide
  obtain ⟨titled, htitle, htitleStyle⟩ :=
    apply_heading (empty name) [] (show 1 = _ from rfl) hlimits.1 .title title
  obtain ⟨both, hsubtitle, hsubtitleStyle⟩ :=
    apply_heading (empty name) [[heading .title title]] (show 2 = _ from rfl) hlimits.2
      .subtitle subtitle
  have htitle : Edit.apply (writeText 1 1 title) (empty name) = (.ok (), titled) := htitle
  unfold writeTitle
  rw [Edit.apply_bind_of_ok htitle, Edit.apply_bind_of_ok htitleStyle, List.nil_append,
    Edit.apply_bind_of_ok hsubtitle, Edit.apply_bind_of_ok hsubtitleStyle]
  dsimp only
  by_cases hwide : 1 < columns
  · rw [if_pos (by omega), if_neg (by omega), Edit.apply_bind_of_ok (Edit.apply_modify _ _),
      Int.toNat_natCast]
    refine ⟨_, _, _, rfl, length_mergedCells hwide (heading .title title),
      length_mergedCells hwide (heading .subtitle subtitle), ?_⟩
    exact row_le_of_mem_merge_merge
      { empty name with rows := [[heading .title title]] ++ [[heading .subtitle subtitle]] }
      columns rfl
  · rw [if_neg (by omega)]
    have hone : columns = 1 := by omega
    exact ⟨_, _, _, rfl, hone.symm, hone.symm, nofun⟩

end ArtifactSearch.Sheet
