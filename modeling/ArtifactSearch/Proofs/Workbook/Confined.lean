import ArtifactSearch.Proofs.Workbook.Plans

/-!
# ArtifactSearch.Proofs.Workbook.Confined

**What an edit leaves alone.** An edit is `Confined` to a block of cells if, whatever sheet it
finds and whether it fails or not, the sheet `Keeps` all that is beside the block, looks included,
and what is merged. The loops over the cells of a row and over the rows of a table are followed
from one cell to a row (`confined_writeValues`) and to a block (`confined_writeTable`). Fitting
the widths looks at all cells of a sheet and freezing at none, but neither changes one.
-/

namespace ArtifactSearch

namespace Sheet

/-! ### What is kept beside a block -/

/-- Some rows and columns next to each other. -/
structure Block where
  /-- The first row. -/
  row : Int
  /-- The first column. -/
  column : Int
  /-- The number of rows. -/
  height : Nat
  /-- The number of columns. -/
  width : Nat

/-- Whether the cell in a row and a column is in the block. -/
def Block.Has (block : Block) (row column : Int) : Prop :=
  (block.row ≤ row ∧ row < block.row + block.height) ∧
    block.column ≤ column ∧ column < block.column + block.width

/-- All of a block is in another one. -/
structure Block.Inside (block other : Block) : Prop where
  has : ∀ row column, block.Has row column → other.Has row column

/-- The second sheet is the first one but for cells of a block, the widths and what is
frozen. -/
structure Keeps (block : Block) (sheet next : Sheet) : Prop where
  title : next.title = sheet.title
  merged : next.merged = sheet.merged
  cells : ∀ row column : Nat, 0 < row → 0 < column → ¬ block.Has row column →
    next.cellAt row column = sheet.cellAt row column

variable {block other : Block} {sheet next last : Sheet}

theorem Keeps.of_rows (title : next.title = sheet.title) (merged : next.merged = sheet.merged)
    (rows : next.rows = sheet.rows) : Keeps block sheet next :=
  ⟨title, merged, fun _ _ _ _ _ => by rw [cellAt, cellAt, rows]⟩

theorem Keeps.rfl : Keeps block sheet sheet := .of_rows (Eq.refl _) (Eq.refl _) (Eq.refl _)

theorem Keeps.trans (h : Keeps block sheet next) (hmore : Keeps block next last) :
    Keeps block sheet last where
  title := hmore.title.trans h.title
  merged := hmore.merged.trans h.merged
  cells row column hrow hcolumn hbeside :=
    (hmore.cells row column hrow hcolumn hbeside).trans (h.cells row column hrow hcolumn hbeside)

theorem Keeps.mono (h : Keeps block sheet next) (hinside : block.Inside other) :
    Keeps other sheet next where
  title := h.title
  merged := h.merged
  cells row column hrow hcolumn hbeside :=
    h.cells row column hrow hcolumn fun hhas => hbeside (hinside.has _ _ hhas)

/-! ### Edits of a block -/

/-- Whatever sheet the edit finds, and whether it fails or not, it changes cells of a block
only. -/
def Confined {α : Type} (block : Block) (edit : Edit α) : Prop :=
  ∀ sheet, Keeps block sheet (Edit.apply edit sheet).2

variable {α β : Type} {edit : Edit α} {f : α → Edit β} {row column : Int}

theorem Confined.mono (h : Confined block edit) (hinside : block.Inside other) :
    Confined other edit := fun sheet => (h sheet).mono hinside

theorem Confined.bind (h : Confined block edit) (hf : ∀ a, Confined block (f a)) :
    Confined block (edit >>= f) := by
  intro sheet
  have hedit := h sheet
  rw [Edit.apply_bind]
  cases happly : Edit.apply edit sheet with
  | mk outcome next =>
      rw [happly] at hedit
      cases outcome with
      | error error => exact hedit
      | ok a => exact hedit.trans (hf a next)

theorem confined_pure (a : α) : Confined block (pure a : Edit α) := fun _ => .rfl

theorem confined_throw (error : SheetError) : Confined block (throw error : Edit α) := fun _ => .rfl

/-- A check that may fail changes nothing. -/
theorem confined_throwIf (p : Prop) [Decidable p] (error : SheetError) :
    Confined block (if p then throw error else pure () : Edit Unit) := by
  split
  · exact confined_throw error
  · exact confined_pure ()

theorem confined_get : Confined block (get : Edit Sheet) := fun _ => .rfl

theorem confined_modify {f : Sheet → Sheet} (h : ∀ sheet, Keeps block sheet (f sheet)) :
    Confined block (modify f : Edit Unit) := h

theorem confined_change (row column : Int) (f : Cell → Cell) :
    Confined ⟨row, column, 1, 1⟩ (change row column f) := by
  intro sheet
  by_cases hwithin : 0 < row ∧ row ≤ lastRow ∧ 0 < column
  · obtain ⟨r, c, rfl, rfl, hrc⟩ := within_iff.mp hwithin
    rw [apply_change hrc]
    refine ⟨rfl, rfl, fun i j hi hj hbeside => ?_⟩
    rw [cellAt_update_of_pos hrc.row.1 hrc.column f hi hj, if_neg]
    rintro ⟨rfl, rfl⟩
    exact hbeside ⟨⟨Int.le_refl _, Int.lt_succ _⟩, Int.le_refl _, Int.lt_succ _⟩
  · obtain ⟨error, hfails⟩ := apply_change_of_outside hwithin f sheet
    rw [hfails]
    exact .rfl

theorem confined_claim (row column : Int) : Confined ⟨row, column, 1, 1⟩ (claim row column) :=
  (confined_change row column id).bind fun _ => confined_get.bind fun _ =>
    confined_throwIf _ .covered

theorem confined_setValue (row column : Int) (value : Value) (kind : CellKind) :
    Confined ⟨row, column, 1, 1⟩ (setValue row column value kind) :=
  (confined_claim row column).bind fun _ => confined_change row column _

theorem confined_writeTyped (row column : Int) (value : Value) :
    Confined ⟨row, column, 1, 1⟩ (writeTyped row column value) := by
  cases value with
  | text s =>
      refine (confined_claim row column).bind fun _ => ?_
      split
      · exact (confined_change row column _).bind fun _ => confined_throw _
      · exact confined_setValue row column _ _
  | number n => exact confined_setValue row column _ _
  | truth b => exact confined_setValue row column _ _
  | nothing => exact confined_setValue row column _ _

theorem confined_writeEntry (kind : ColumnKind) (row column : Int) (value : Value) :
    Confined ⟨row, column, 1, 1⟩ (writeEntry kind row column value) := by
  cases kind with
  | number => exact confined_writeTyped row column value
  | text => exact confined_setValue row column _ _
  | index => exact confined_setValue row column _ _

theorem confined_writeData (kind : ColumnKind) (row column : Int) (value : Value) :
    Confined ⟨row, column, 1, 1⟩ (writeData kind row column value) := by
  rw [writeData_eq]
  exact (confined_change row column _).bind fun _ =>
    (confined_writeEntry kind row column value).bind fun _ => confined_change row column _

/-! ### Edits of a row -/

/-- An edit of a cell, and then one of the cells behind it. -/
theorem Confined.cons {width : Nat} (h : Confined ⟨row, column, 1, 1⟩ edit)
    (hf : ∀ a, Confined ⟨row, column + 1, 1, width⟩ (f a)) :
    Confined ⟨row, column, 1, width + 1⟩ (edit >>= f) := by
  have hfirst : Block.Inside ⟨row, column, 1, 1⟩ ⟨row, column, 1, width + 1⟩ := ⟨fun r c h => by
    simp only [Block.Has] at h ⊢
    omega⟩
  have hbehind : Block.Inside ⟨row, column + 1, 1, width⟩ ⟨row, column, 1, width + 1⟩ :=
    ⟨fun r c h => by
      simp only [Block.Has] at h ⊢
      omega⟩
  exact (h.mono hfirst).bind fun a => (hf a).mono hbehind

theorem confined_writeTexts (row column : Int) (texts : List Text) :
    Confined ⟨row, column, 1, texts.length⟩ (writeTexts row column texts) := by
  induction texts generalizing column with
  | nil => exact confined_pure ()
  | cons s rest ih => exact (confined_setValue row column _ _).cons fun _ => ih (column + 1)

theorem confined_styleHeader (row column : Int) (columns : Nat) :
    Confined ⟨row, column, 1, columns⟩ (styleHeader row column columns) := by
  induction columns generalizing column with
  | zero => exact confined_pure ()
  | succ columns ih => exact (confined_change row column _).cons fun _ => ih (column + 1)

theorem confined_writeValues (row column : Int) (values : List (ColumnKind × Value)) :
    Confined ⟨row, column, 1, values.length⟩ (writeValues row column values) := by
  induction values generalizing column with
  | nil => exact confined_pure ()
  | cons v rest ih => exact (confined_writeData v.1 row column v.2).cons fun _ => ih (column + 1)

/-! ### Tables -/

theorem confined_writeRows (kinds : List ColumnKind) (row : Int) (rows : List (List Value)) :
    Confined ⟨row, 1, rows.length, kinds.length⟩ (writeRows kinds row rows) := by
  induction rows generalizing row with
  | nil => exact confined_pure ()
  | cons values rest ih =>
      -- A row that is too short leaves cells of the block empty, and none has too many values.
      have hwidth : (kinds.zip values).length ≤ kinds.length := by
        rw [List.length_zip]
        exact Nat.min_le_left _ _
      have hfirst : Block.Inside ⟨row, 1, 1, (kinds.zip values).length⟩
          ⟨row, 1, rest.length + 1, kinds.length⟩ := ⟨fun r c h => by
        simp only [Block.Has] at h ⊢
        omega⟩
      have hbelow : Block.Inside ⟨row + 1, 1, rest.length, kinds.length⟩
          ⟨row, 1, rest.length + 1, kinds.length⟩ := ⟨fun r c h => by
        simp only [Block.Has] at h ⊢
        omega⟩
      exact ((confined_writeValues row 1 (kinds.zip values)).mono hfirst).bind fun _ =>
        (ih (row + 1)).mono hbelow

theorem confined_fitWidths (limits : WidthLimits) : Confined block (fitWidths limits) := by
  refine confined_get.bind fun found => ?_
  dsimp only
  split
  · refine Confined.bind (confined_modify fun _ => ?_) fun _ => confined_throwIf _ _
    exact .of_rows rfl rfl rfl
  · refine Confined.bind (confined_modify fun _ => ?_) fun _ => confined_throw _
    exact .of_rows rfl rfl rfl

theorem confined_freeze (row : Int) : Confined block (freeze row) := by
  unfold freeze
  by_cases hrow : row < 0
  · rw [if_pos hrow]
    exact fun _ => .rfl
  · rw [if_neg hrow]
    refine Confined.bind (confined_modify fun _ => ?_) fun _ => confined_throwIf _ _
    exact .of_rows rfl rfl rfl

/-- The block of a table: the heading, and below it the data rows. -/
def tableBlock (start : Int) (height width : Nat) : Block := ⟨start, 1, height + 1, width⟩

theorem confined_writeTable (start : Int) (columns : List ColumnSpec) (rows : List (List Value))
    (freezes : Bool) :
    Confined (tableBlock start rows.length columns.length)
      (writeTable start columns rows freezes) := by
  have hheading : Block.Inside ⟨start, 1, 1, columns.length⟩
      (tableBlock start rows.length columns.length) := ⟨fun r c h => by
    simp only [Block.Has, tableBlock] at h ⊢
    omega⟩
  have hdata : Block.Inside ⟨start + 1, 1, rows.length, columns.length⟩
      (tableBlock start rows.length columns.length) := ⟨fun r c h => by
    simp only [Block.Has, tableBlock] at h ⊢
    omega⟩
  have htexts := confined_writeTexts start 1 (columns.map ColumnSpec.label)
  have hrows := confined_writeRows (columns.map ColumnSpec.kind) (start + 1) rows
  rw [List.length_map] at htexts hrows
  refine (htexts.mono hheading).bind fun _ => ?_
  refine ((confined_styleHeader start 1 columns.length).mono hheading).bind fun _ => ?_
  refine (hrows.mono hdata).bind fun _ => ?_
  refine (confined_fitWidths .default).bind fun _ => ?_
  cases freezes with
  | false => exact confined_pure _
  | true => exact (confined_freeze (start + 1)).bind fun _ => confined_pure _

theorem row_of_writeTable {start after : Int} {columns : List ColumnSpec}
    {rows : List (List Value)} {freezes : Bool}
    (h : (Edit.apply (writeTable start columns rows freezes) sheet).1 = .ok after) :
    after = start + 1 + rows.length := by
  obtain ⟨_, _, -, h⟩ := Edit.ok_of_bind h
  obtain ⟨_, _, -, h⟩ := Edit.ok_of_bind h
  obtain ⟨_, _, -, h⟩ := Edit.ok_of_bind h
  obtain ⟨_, _, -, h⟩ := Edit.ok_of_bind h
  cases freezes with
  | false => exact (Except.ok.inj h).symm
  | true =>
      obtain ⟨_, _, -, h⟩ := Edit.ok_of_bind h
      exact (Except.ok.inj h).symm

theorem row_of_writeTitle {title subtitle : Value} {columns after : Int}
    (h : (Edit.apply (writeTitle title subtitle columns) sheet).1 = .ok after) :
    after = rowAfterTitle := by
  obtain ⟨_, _, -, h⟩ := Edit.ok_of_bind h
  obtain ⟨_, _, -, h⟩ := Edit.ok_of_bind h
  obtain ⟨_, _, -, h⟩ := Edit.ok_of_bind h
  obtain ⟨_, _, -, h⟩ := Edit.ok_of_bind h
  by_cases hwide : 1 < columns
  · rw [if_pos hwide] at h
    by_cases hlimit : lastColumn < columns
    · rw [if_pos hlimit] at h
      cases h
    · rw [if_neg hlimit] at h
      exact (Except.ok.inj h).symm
  · rw [if_neg hwide] at h
    exact (Except.ok.inj h).symm

end Sheet

end ArtifactSearch
