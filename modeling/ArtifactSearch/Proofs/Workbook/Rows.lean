import ArtifactSearch.Proofs.Workbook.Edit

/-!
# ArtifactSearch.Proofs.Workbook.Rows

**Rows that are written cell by cell.** All loops over the cells of a row come to the
same: `fillRow` changes one cell after the other (`apply_writeTexts`,
`apply_styleHeader`, `apply_writeValues`). In the last row of a sheet that is a list
written over another (`fillRow_last`), and behind the last row it makes a new one
(`fillRow_below`), so that the rows of a table that is written below everything else are
put behind the rows that are there (`apply_writeRows_below`).
-/

namespace ArtifactSearch.Sheet

variable {sheet : Sheet} {row column : Nat} {changes : List (Cell → Cell)}

/-- The sheet with cells of a row changed, from a column on. -/
def fillRow (row column : Nat) : List (Cell → Cell) → Sheet → Sheet
  | [], sheet => sheet
  | f :: rest, sheet => fillRow row (column + 1) rest (sheet.update row column f)

/-! ### Loops over a row -/

theorem cellAt_update_of_lt (hrow : 0 < row) (hcolumn : 0 < column) {other : Nat}
    (h : column < other) (f : Cell → Cell) :
    (sheet.update row column f).cellAt row other = sheet.cellAt row other := by
  rw [cellAt_update_of_pos hrow hcolumn f hrow (by omega), if_neg (by omega)]

/-- No cell of a row is covered, from a column on. -/
def Free (sheet : Sheet) (row column : Nat) : Prop :=
  ∀ i, column ≤ i → (sheet.cellAt row i).covered = false

theorem Free.update (h : sheet.Free row column) (hwithin : Within row column) (f : Cell → Cell) :
    (sheet.update row column f).Free row (column + 1) := by
  intro i hi
  rw [cellAt_update_of_lt hwithin.row.1 hwithin.column (by omega)]
  exact h i (by omega)

theorem apply_writeTexts (hwithin : Within row column) (hfree : sheet.Free row column)
    (texts : List Text) :
    Edit.apply (writeTexts row column texts) sheet = (.ok (), sheet.fillRow row column
      (texts.map fun s => put (.text (plainText (.text s))) .text)) := by
  induction texts generalizing column sheet with
  | nil => rfl
  | cons s rest ih =>
      have hrest := ih ⟨hwithin.row, Nat.succ_pos column⟩
        (hfree.update hwithin (put (.text (plainText (.text s))) .text))
      unfold writeTexts
      rw [Edit.apply_bind_of_ok (apply_writeText hwithin (hfree column (Nat.le_refl _)) _)]
      exact hrest

theorem apply_styleHeader (hwithin : Within row column) (sheet : Sheet) (columns : Nat) :
    Edit.apply (styleHeader row column columns) sheet = (.ok (), sheet.fillRow row column
      (List.replicate columns fun cell => { cell with style := cell.style.header })) := by
  induction columns generalizing column sheet with
  | zero => rfl
  | succ columns ih =>
      unfold styleHeader
      rw [Edit.apply_bind_of_ok (apply_restyle hwithin _ sheet)]
      exact ih ⟨hwithin.row, Nat.succ_pos column⟩ _

theorem apply_writeValues (hwithin : Within row column) (hfree : sheet.Free row column)
    {values : List (ColumnKind × Value)} (hfits : ∀ v ∈ values, Fits v.1 v.2) :
    Edit.apply (writeValues row column values) sheet = (.ok (), sheet.fillRow row column
      (values.map fun v => putData v.1 row v.2)) := by
  induction values generalizing column sheet with
  | nil => rfl
  | cons v rest ih =>
      obtain ⟨kind, value⟩ := v
      have hrest := ih ⟨hwithin.row, Nat.succ_pos column⟩
        (hfree.update hwithin (putData kind row value))
        (fun next hnext => hfits next (List.mem_cons_of_mem _ hnext))
      unfold writeValues
      rw [Edit.apply_bind_of_ok
        (apply_writeData hwithin (hfree column (Nat.le_refl _)) (hfits _ List.mem_cons_self))]
      exact hrest

/-! ### The last row and what is behind it -/

/-- A row of cells with changes from the left on; behind the row, cells are blank. -/
def overlay : List (Cell → Cell) → List Cell → List Cell
  | [], cells => cells
  | f :: rest, cells => f (cells.headD .blank) :: overlay rest cells.tail

@[simp] theorem overlay_nil (changes : List (Cell → Cell)) :
    overlay changes [] = changes.map (fun f => f .blank) := by
  induction changes with
  | nil => rfl
  | cons f rest ih =>
      rw [overlay, List.tail_nil, ih]
      rfl

@[simp] theorem overlay_replicate (f : Cell → Cell) (cells : List Cell) :
    overlay (List.replicate cells.length f) cells = cells.map f := by
  induction cells with
  | nil => rfl
  | cons cell rest ih =>
      rw [List.length_cons, List.replicate_succ, overlay, List.tail_cons, ih]
      rfl

theorem modify_append_cons {α : Type} (before : List α) (x : α) (after : List α) (f : α → α) :
    (before ++ x :: after).modify before.length f = before ++ f x :: after := by
  induction before with
  | nil => rfl
  | cons y rest ih =>
      rw [List.cons_append, List.length_cons, List.modify_succ_cons, ih]
      rfl

theorem update_last {before : List (List Cell)} {done cells : List Cell}
    (h : sheet.rows = before ++ [done ++ cells]) (f : Cell → Cell) :
    sheet.update (before.length + 1) (done.length + 1) f =
      { sheet with rows := before ++ [done ++ f (cells.headD .blank) :: cells.tail] } := by
  have hrows : sheet.rows.rightpad (before.length + 1) [] = before ++ [done ++ cells] := by
    rw [h, List.rightpad]
    simp
  have hcells : (done ++ cells).rightpad (done.length + 1) .blank
      = done ++ cells.headD .blank :: cells.tail := by
    cases cells with
    | nil => simp [List.rightpad]
    | cons cell rest => simp [List.rightpad]
  unfold update
  rw [hrows, Nat.add_sub_cancel, Nat.add_sub_cancel, modify_append_cons, hcells,
    modify_append_cons]

theorem fillRow_last {before : List (List Cell)} {done cells : List Cell}
    (h : sheet.rows = before ++ [done ++ cells]) (changes : List (Cell → Cell)) :
    sheet.fillRow (before.length + 1) (done.length + 1) changes =
      { sheet with rows := before ++ [done ++ overlay changes cells] } := by
  induction changes generalizing sheet done cells with
  | nil => rw [fillRow, overlay, ← h]
  | cons f rest ih =>
      have hnext := update_last h f
      have hrows : (sheet.update (before.length + 1) (done.length + 1) f).rows
          = before ++ [(done ++ [f (cells.headD .blank)]) ++ cells.tail] := by
        rw [hnext, List.append_assoc, List.singleton_append]
      have hrest := ih hrows
      rw [List.length_append, List.length_singleton, List.append_assoc, List.singleton_append]
        at hrest
      rw [fillRow, hrest, overlay, hnext]

/-- Behind the last row of a sheet, a change makes its row first. -/
theorem update_below (h : sheet.rows.length < row) (column : Nat) (f : Cell → Cell) :
    sheet.update row column f
      = { sheet with rows := sheet.rows.rightpad (row - 1) [] ++ [[]] }.update row column f := by
  obtain ⟨r, rfl⟩ := Nat.exists_eq_succ_of_ne_zero (by omega : row ≠ 0)
  have hrows : sheet.rows.rightpad (r + 1) [] = sheet.rows.rightpad r [] ++ [[]] := by
    rw [List.rightpad, List.rightpad, List.append_assoc,
      show r + 1 - sheet.rows.length = (r - sheet.rows.length) + 1 by omega, List.replicate_succ']
  have hmade : (sheet.rows.rightpad r [] ++ [[]]).rightpad (r + 1) []
      = sheet.rows.rightpad r [] ++ [[]] := by
    rw [← hrows, List.rightpad, List.length_rightpad]
    simp [Nat.sub_eq_zero_of_le (Nat.le_max_left (r + 1) sheet.rows.length)]
  unfold update
  simp only [Nat.succ_eq_add_one, Nat.add_sub_cancel, hrows, hmade]

theorem fillRow_below (h : sheet.rows.length < row) (hne : changes ≠ []) :
    sheet.fillRow row 1 changes =
      { sheet with rows := sheet.rows.rightpad (row - 1) [] ++
        [changes.map fun f => f .blank] } := by
  have hlength : (sheet.rows.rightpad (row - 1) []).length + 1 = row := by
    rw [List.length_rightpad]
    omega
  obtain ⟨f, rest, rfl⟩ := List.exists_cons_of_ne_nil hne
  have hopen : { sheet with rows := sheet.rows.rightpad (row - 1) [] ++ [[]] }.rows
      = sheet.rows.rightpad (row - 1) [] ++ [[] ++ []] := rfl
  have hmade := fillRow_last hopen (f :: rest)
  rw [hlength, List.nil_append, overlay_nil] at hmade
  rw [fillRow, update_below h]
  exact hmade

theorem free_below (h : sheet.rows.length < row) (column : Nat) : sheet.Free row column := by
  intro i _
  have hnone : sheet.rows[row - 1]? = none := List.getElem?_eq_none (by omega)
  rw [cellAt, hnone]
  rfl

/-! ### Rows of a table -/

/-- The row of a table with some values. -/
def dataRow (kinds : List ColumnKind) (row : Nat) (values : List Value) : List Cell :=
  (kinds.zip values).map fun v => putData v.1 row v.2 .blank

/-- The rows of a table, from a row on. -/
def dataRows (kinds : List ColumnKind) (row : Nat) (rows : List (List Value)) :
    List (List Cell) :=
  (rows.zipIdx row).map fun entry => dataRow kinds entry.2 entry.1

/-- Rows that go into columns of the given kinds. -/
structure RowsFit (kinds : List ColumnKind) (rows : List (List Value)) : Prop where
  /-- There are values. -/
  occupied : ∀ values ∈ rows, kinds.zip values ≠ []
  /-- They fit where they go. -/
  fits : ∀ values ∈ rows, ∀ v ∈ kinds.zip values, Fits v.1 v.2

theorem apply_writeValues_next (sheet : Sheet) (before : List (List Cell))
    {kinds : List ColumnKind} {values : List Value} (hne : kinds.zip values ≠ [])
    (hfits : ∀ v ∈ kinds.zip values, Fits v.1 v.2) (hlimit : before.length < lastRow) :
    Edit.apply (writeValues (before.length + 1 : Nat) 1 (kinds.zip values))
        { sheet with rows := before } =
      (.ok (), { sheet with rows := before ++ [dataRow kinds (before.length + 1) values] }) := by
  have hbelow : { sheet with rows := before }.rows.length < before.length + 1 :=
    Nat.lt_add_one _
  have hvalues := apply_writeValues ⟨by omega, by omega⟩ (free_below hbelow 1) hfits
  rw [fillRow_below hbelow (by simpa using hne), Nat.add_sub_cancel, List.rightpad, Nat.sub_self,
    List.replicate_zero, List.append_nil, List.map_map] at hvalues
  exact hvalues

theorem apply_writeRows_below (sheet : Sheet) (before : List (List Cell))
    {kinds : List ColumnKind} {rows : List (List Value)} (hfit : RowsFit kinds rows)
    (hlimit : before.length + rows.length ≤ lastRow) :
    Edit.apply (writeRows kinds (before.length + 1 : Nat) rows) { sheet with rows := before } =
      (.ok (), { sheet with rows := before ++ dataRows kinds (before.length + 1) rows }) := by
  induction rows generalizing before with
  | nil => simp [writeRows, dataRows]
  | cons values rest ih =>
      rw [List.length_cons] at hlimit
      have hvalues := apply_writeValues_next sheet before (hfit.occupied values List.mem_cons_self)
        (hfit.fits values List.mem_cons_self) (by omega)
      have hlength : (before ++ [dataRow kinds (before.length + 1) values]).length
          = before.length + 1 := by
        rw [List.length_append, List.length_singleton]
      have hrest := ih (before ++ [dataRow kinds (before.length + 1) values])
        ⟨fun next hnext => hfit.occupied next (List.mem_cons_of_mem _ hnext),
          fun next hnext => hfit.fits next (List.mem_cons_of_mem _ hnext)⟩ (by omega)
      rw [hlength, List.append_assoc, List.singleton_append] at hrest
      unfold writeRows
      rw [Edit.apply_bind_of_ok hvalues, dataRows, List.zipIdx_cons, List.map_cons]
      exact hrest

end ArtifactSearch.Sheet
