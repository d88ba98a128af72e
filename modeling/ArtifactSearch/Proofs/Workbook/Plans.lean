import ArtifactSearch.Proofs.Workbook.Journal

/-!
# ArtifactSearch.Proofs.Workbook.Plans

**Title blocks and tables carry out their plans.** A value written to a cell is a plan
of one write (`performs_writeEntry`, `performs_writeData`), and the loops over rows and
columns put these together (`performs_writeRows`). The look of headings needs a row that
the sheet has; it comes after the headings were written, and so there is one
(`journaled_writeTable`). What comes last in a table, the widths and the freezing, may
fail without changing a cell. What comes last in a title block covers cells
(`after_merge`).
-/

namespace ArtifactSearch.Sheet

variable {sheet next : Sheet} {row column : Nat} {α β : Type} {edit : Edit α} {f : α → Edit β}

/-! ### Single cells -/

theorem within_iff {row column : Int} :
    (0 < row ∧ row ≤ lastRow ∧ 0 < column) ↔
      ∃ r c : Nat, row = r ∧ column = c ∧ Within r c := by
  constructor
  · rintro ⟨hrow, hlast, hcolumn⟩
    exact ⟨row.toNat, column.toNat, by omega, by omega, ⟨by omega, by omega⟩, by omega⟩
  · rintro ⟨r, c, rfl, rfl, ⟨hrow, hlast⟩, hcolumn⟩
    exact ⟨by omega, by omega, by omega⟩

theorem isOpen_iff {row column : Int} :
    sheet.isOpen row column ↔ ∃ r c : Nat, row = r ∧ column = c ∧ Within r c ∧
      (sheet.cellAt r c).covered = false := by
  simp only [isOpen, Bool.and_eq_true, decide_eq_true_eq, Bool.not_eq_true']
  constructor
  · rintro ⟨⟨⟨hrow, hlast⟩, hcolumn⟩, hfree⟩
    obtain ⟨r, c, rfl, rfl, hwithin⟩ := within_iff.mp ⟨hrow, hlast, hcolumn⟩
    exact ⟨r, c, rfl, rfl, hwithin, hfree⟩
  · rintro ⟨r, c, rfl, rfl, hwithin, hfree⟩
    obtain ⟨hrow, hlast, hcolumn⟩ := within_iff.mpr ⟨r, c, rfl, rfl, hwithin⟩
    exact ⟨⟨⟨hrow, hlast⟩, hcolumn⟩, hfree⟩

theorem within_of_takes {write : Write} (h : sheet.takes write) :
    ∃ r c : Nat, write.row = r ∧ write.column = c ∧ Within r c := by
  rw [takes, Bool.and_eq_true, isOpen_iff] at h
  obtain ⟨⟨r, c, hr, hc, hwithin, -⟩, -⟩ := h
  exact ⟨r, c, hr, hc, hwithin⟩

theorem after_update {acts : List Act} (h : Within row column) {f : Cell → Cell}
    (hself : (f (sheet.cellAt row column)).bare =
      acts.foldl (Act.on row column) (sheet.cellAt row column).bare)
    (hother : ∀ r c cell, ¬ (r = row ∧ c = column) → acts.foldl (Act.on r c) cell = cell) :
    After acts sheet (sheet.update row column f) := by
  intro r c hr hc
  rw [cellAt_update_of_pos h.row.1 h.column f hr hc]
  split
  · rename_i hcell
    obtain ⟨rfl, rfl⟩ := hcell
    exact hself
  · rename_i hcell
    rw [hother _ _ _ hcell]

theorem isAt_iff {kind : ColumnKind} {value : Value} {r c : Nat} :
    (⟨row, column, kind, value⟩ : Write).IsAt r c ↔ r = row ∧ c = column := by
  show (row : Int) = r ∧ (column : Int) = c ↔ _
  omega

theorem after_update_written (h : Within row column) (kind : ColumnKind) (value : Value) :
    let write : Write := ⟨row, column, kind, value⟩
    After [.written write] sheet (sheet.update row column (put write.content.1 write.content.2)) :=
  after_update h (if_pos (isAt_iff.mpr ⟨rfl, rfl⟩)).symm fun _ _ _ hne =>
    if_neg (mt isAt_iff.mp hne)

theorem after_update_refused (h : Within row column) (kind : ColumnKind) (value : Value) :
    After [.refused ⟨row, column, kind, value⟩] sheet
      (sheet.update row column fun cell => { cell with kind := .text }) :=
  after_update h (if_pos (isAt_iff.mpr ⟨rfl, rfl⟩)).symm fun _ _ _ hne =>
    if_neg (mt isAt_iff.mp hne)

theorem after_update_look (h : Within row column) {f : Cell → Cell}
    (hf : ∀ cell, (f cell).bare = cell.bare) : After [] sheet (sheet.update row column f) :=
  after_update h (hf _) fun _ _ _ _ => rfl

theorem performs_restyle (h : Within row column) (f : Style → Style) (sheet : Sheet) :
    Performs (restyle row column f) sheet [] where
  after := by
    rw [apply_restyle h]
    exact after_update_look h fun _ => rfl
  taken := nofun
  done _ := ⟨(), by rw [apply_restyle h]⟩

/-- Every value starts with the use of its cell. -/
theorem exists_writeEntry_eq (kind : ColumnKind) (row column : Int) (value : Value) :
    ∃ g, writeEntry kind row column value = claim row column >>= g := by
  cases kind with
  | text => exact ⟨_, rfl⟩
  | index => exact ⟨_, rfl⟩
  | number => cases value <;> exact ⟨_, rfl⟩

/-- A cell that is not open fails before anything is written. -/
theorem apply_writeEntry_of_not_isOpen {row column : Int} (h : ¬ sheet.isOpen row column)
    (kind : ColumnKind) (value : Value) :
    ∃ error next, Edit.apply (writeEntry kind row column value) sheet = (.error error, next) ∧
      After [] sheet next := by
  have hclaim : ∃ error next, Edit.apply (claim row column) sheet = (.error error, next) ∧
      After [] sheet next := by
    by_cases hwithin : 0 < row ∧ row ≤ lastRow ∧ 0 < column
    · obtain ⟨r, c, rfl, rfl, hrc⟩ := within_iff.mp hwithin
      have hcovered : (sheet.cellAt r c).covered = true := by
        by_contra hfree
        exact h (isOpen_iff.mpr ⟨r, c, rfl, rfl, hrc, by simpa using hfree⟩)
      exact ⟨_, _, apply_claim_of_covered hrc hcovered, after_update_look hrc fun _ => rfl⟩
    · obtain ⟨error, herror⟩ := apply_change_of_outside hwithin id sheet
      exact ⟨error, sheet, by rw [claim, Edit.apply_bind, herror], .rfl⟩
  obtain ⟨error, next, hclaim, hafter⟩ := hclaim
  obtain ⟨g, hg⟩ := exists_writeEntry_eq kind row column value
  exact ⟨error, next, by rw [hg, Edit.apply_bind, hclaim], hafter⟩

/-- In an open cell, a value is written or refused. -/
theorem apply_writeEntry_of_free (h : Within row column)
    (hfree : (sheet.cellAt row column).covered = false) (kind : ColumnKind) (value : Value) :
    let write : Write := ⟨row, column, kind, value⟩
    write.isRefused = false ∧ Edit.apply (writeEntry kind row column value) sheet
        = (.ok (), sheet.update row column (put write.content.1 write.content.2)) ∨
      write.isRefused = true ∧ ∃ error, Edit.apply (writeEntry kind row column value) sheet
        = (.error error, sheet.update row column fun cell => { cell with kind := .text }) := by
  intro write
  cases kind with
  | text => exact .inl ⟨rfl, apply_writeText h hfree value⟩
  | index => exact .inl ⟨rfl, apply_writeText h hfree value⟩
  | number =>
      cases value with
      | number n => exact .inl ⟨rfl, apply_setValue h hfree _ _⟩
      | truth b => exact .inl ⟨rfl, apply_setValue h hfree _ _⟩
      | nothing => exact .inl ⟨rfl, apply_setValue h hfree _ _⟩
      | text s =>
          cases hcontrol : (s.take maxText).any isControl with
          | false => exact .inl ⟨hcontrol, apply_writeEntry_text h hfree hcontrol⟩
          | true => exact .inr ⟨hcontrol, _, apply_writeEntry_control h hfree hcontrol⟩

theorem performs_of_not_isOpen {write : Write} {error : SheetError}
    (hclosed : ¬ sheet.isOpen write.row write.column)
    (h : Edit.apply edit sheet = (.error error, next)) (hafter : After [] sheet next) :
    Performs edit sheet [write] := by
  refine ⟨⟨?_, fun a ha => ?_⟩, fun hall => by simp [takes, hclosed] at hall⟩
  · rw [h, journal, if_neg hclosed]
    exact hafter
  · rw [h] at ha
    cases ha

theorem performs_writeEntry (kind : ColumnKind) (row column : Int) (value : Value)
    (sheet : Sheet) :
    Performs (writeEntry kind row column value) sheet [⟨row, column, kind, value⟩] := by
  by_cases hopen : sheet.isOpen row column
  · obtain ⟨r, c, rfl, rfl, hwithin, hfree⟩ := isOpen_iff.mp hopen
    rcases apply_writeEntry_of_free hwithin hfree kind value with
      ⟨hlegal, happly⟩ | ⟨hrefused, error, happly⟩
    · refine ⟨⟨?_, fun _ _ => by simp [takes, hopen, hlegal]⟩, fun _ => ⟨(), by rw [happly]⟩⟩
      rw [happly, journal, if_pos hopen, hlegal, if_neg Bool.false_ne_true]
      exact after_update_written hwithin kind value
    · refine ⟨⟨?_, fun a ha => ?_⟩, fun hall => by simp [takes, hrefused] at hall⟩
      · rw [happly, journal, if_pos hopen, if_pos hrefused]
        exact after_update_refused hwithin kind value
      · rw [happly] at ha
        cases ha
  · obtain ⟨error, next, happly, hafter⟩ := apply_writeEntry_of_not_isOpen hopen kind value
    exact performs_of_not_isOpen hopen happly hafter

/-! ### Plans of title blocks and tables -/

/-- The plan of values in a row, from a column on. -/
def valueWrites (row column : Int) : List (ColumnKind × Value) → List Write
  | [] => []
  | (kind, value) :: rest => ⟨row, column, kind, value⟩ :: valueWrites row (column + 1) rest

/-- The plan of rows of a table, from a row on. -/
def rowWrites (kinds : List ColumnKind) (row : Int) : List (List Value) → List Write
  | [] => []
  | values :: rest => valueWrites row 1 (kinds.zip values) ++ rowWrites kinds (row + 1) rest

/-- The plan of the headings of a table. -/
def headerWrites (start : Int) (columns : List ColumnSpec) : List Write :=
  valueWrites start 1 (columns.map fun column => (.text, .text column.label))

/-- The plan of a table. -/
def tableWrites (start : Int) (columns : List ColumnSpec) (rows : List (List Value)) :
    List Write :=
  headerWrites start columns ++ rowWrites (columns.map ColumnSpec.kind) (start + 1) rows

/-- The plan of a title block. -/
def titleWrites (title subtitle : Value) : List Write :=
  [⟨1, 1, .text, title⟩, ⟨2, 1, .text, subtitle⟩]

/-- What a title block over a number of columns merges. -/
def titleMerges (columns : Int) : List Act :=
  if 1 < columns ∧ columns ≤ lastColumn then
    [.merged 1 columns.toNat, .merged 2 columns.toNat]
  else []

theorem mem_valueWrites {row column : Int} {values : List (ColumnKind × Value)} {write : Write} :
    write ∈ valueWrites row column values ↔
      ∃ j : Nat, values[j]? = some (write.kind, write.value) ∧
        write.row = row ∧ write.column = column + j := by
  induction values generalizing column with
  | nil => simp [valueWrites]
  | cons v rest ih =>
      rw [valueWrites, List.mem_cons, ih]
      refine (or_congr ?_ (exists_congr fun j => ?_)).trans Nat.or_exists_add_one
      · cases write
        simp [Prod.ext_iff]
        tauto
      · rw [List.getElem?_cons_succ, Int.natCast_succ, Int.add_assoc, Int.add_comm 1]

theorem mem_rowWrites {kinds : List ColumnKind} {row : Int} {rows : List (List Value)}
    {write : Write} :
    write ∈ rowWrites kinds row rows ↔
      ∃ (i : Nat) (values : List Value), rows[i]? = some values ∧
        write ∈ valueWrites (row + i) 1 (kinds.zip values) := by
  induction rows generalizing row with
  | nil => simp [rowWrites]
  | cons values rest ih =>
      rw [rowWrites, List.mem_append, ih]
      refine Iff.trans ?_ Nat.or_exists_add_one
      refine or_congr ?_ (exists_congr fun i => exists_congr fun cells => ?_)
      · simp
      · rw [List.getElem?_cons_succ, Int.natCast_succ, Int.add_assoc, Int.add_comm 1]

theorem kind_of_mem_titleWrites {title subtitle : Value} {write : Write}
    (h : write ∈ titleWrites title subtitle) : write.kind = .text := by
  rcases List.mem_pair.mp h with rfl | rfl <;> rfl

theorem kind_of_mem_headerWrites {start : Int} {columns : List ColumnSpec} {write : Write}
    (h : write ∈ headerWrites start columns) : write.kind = .text := by
  obtain ⟨j, hj, -⟩ := mem_valueWrites.mp h
  obtain ⟨column, -, hcolumn⟩ := List.mem_map.mp (List.mem_of_getElem? hj)
  exact (congrArg Prod.fst hcolumn).symm

/-- Headings are texts, and each other value is of the kind of its column. -/
theorem kind_of_mem_tableWrites {start : Int} {columns : List ColumnSpec}
    {rows : List (List Value)} {write : Write} (h : write ∈ tableWrites start columns rows) :
    write.kind = .text ∨ ∃ column ∈ columns, column.kind = write.kind := by
  rcases List.mem_append.mp h with hheader | hdata
  · exact .inl (kind_of_mem_headerWrites hheader)
  · obtain ⟨i, values, -, hvalues⟩ := mem_rowWrites.mp hdata
    obtain ⟨j, hj, -⟩ := mem_valueWrites.mp hvalues
    exact .inr (List.mem_map.mp (List.of_mem_zip (List.mem_of_getElem? hj)).1)

/-- A table that is taken as a whole ends within the rows of a sheet. -/
theorem height_le_of_takes {start : Int} {columns : List ColumnSpec} {rows : List (List Value)}
    (hstart : start ≤ lastRow) (hcolumns : columns ≠ []) (hrows : ∀ values ∈ rows, values ≠ [])
    (h : ∀ write ∈ tableWrites start columns rows, sheet.takes write) :
    start + rows.length ≤ lastRow := by
  rcases List.eq_nil_or_concat rows with rfl | ⟨before, values, rfl⟩
  · simpa using hstart
  · obtain ⟨column, rest, rfl⟩ := List.exists_cons_of_ne_nil hcolumns
    obtain ⟨value, others, rfl⟩ := List.exists_cons_of_ne_nil (hrows values (by simp))
    have hmem : (⟨start + 1 + before.length, 1, column.kind, value⟩ : Write) ∈
        tableWrites start (column :: rest) (before.concat (value :: others)) := by
      refine List.mem_append_right _ (mem_rowWrites.mpr ⟨before.length, value :: others, ?_, ?_⟩)
      · simp
      · exact List.mem_cons_self
    obtain ⟨r, c, hr, -, hwithin⟩ := within_of_takes (h _ hmem)
    have hr : start + 1 + before.length = r := hr
    have hlast := hwithin.row.2
    rw [List.length_concat]
    omega

/-! ### Loops -/

theorem performs_writeText (row column : Int) (value : Value) (sheet : Sheet) :
    Performs (writeText row column value) sheet [⟨row, column, .text, value⟩] :=
  performs_writeEntry .text row column value sheet

theorem performs_writeData (kind : ColumnKind) (row column : Int) (value : Value)
    (sheet : Sheet) :
    Performs (writeData kind row column value) sheet [⟨row, column, kind, value⟩] := by
  rw [writeData_eq]
  by_cases hwithin : 0 < row ∧ row ≤ lastRow ∧ 0 < column
  · obtain ⟨r, c, rfl, rfl, hrc⟩ := within_iff.mp hwithin
    exact (performs_restyle hrc _ sheet).bind fun _ bordered _ =>
      (performs_writeEntry kind r c value bordered).bind fun _ written _ =>
        performs_restyle hrc _ written
  · obtain ⟨error, hrestyle⟩ := apply_change_of_outside hwithin
      (fun cell => { cell with style := { cell.style with border := .data } }) sheet
    have happly := Edit.apply_bind (restyle row column fun style => { style with border := .data })
      (fun _ => writeEntry kind row column value >>= fun _ =>
        restyle row column (Style.data kind row)) sheet
    rw [restyle, hrestyle] at happly
    have hclosed : ¬ sheet.isOpen row column := by
      intro hopen
      obtain ⟨r, c, hr, hc, hrc, -⟩ := isOpen_iff.mp hopen
      exact hwithin (within_iff.mpr ⟨r, c, hr, hc, hrc⟩)
    exact performs_of_not_isOpen hclosed happly .rfl

theorem performs_writeTexts (row column : Int) (texts : List Text) (sheet : Sheet) :
    Performs (writeTexts row column texts) sheet
      (valueWrites row column (texts.map fun s => (.text, .text s))) := by
  induction texts generalizing column sheet with
  | nil => exact performs_pure () sheet
  | cons s rest ih =>
      exact (performs_writeText row column (.text s) sheet).bind fun _ next _ =>
        ih (column + 1) next

theorem performs_writeValues (row column : Int) (values : List (ColumnKind × Value))
    (sheet : Sheet) :
    Performs (writeValues row column values) sheet (valueWrites row column values) := by
  induction values generalizing column sheet with
  | nil => exact performs_pure () sheet
  | cons v rest ih =>
      exact (performs_writeData v.1 row column v.2 sheet).bind fun _ next _ =>
        ih (column + 1) next

theorem performs_writeRows (kinds : List ColumnKind) (row : Int) (rows : List (List Value))
    (sheet : Sheet) :
    Performs (writeRows kinds row rows) sheet (rowWrites kinds row rows) := by
  induction rows generalizing row sheet with
  | nil => exact performs_pure () sheet
  | cons values rest ih =>
      exact (performs_writeValues row 1 (kinds.zip values) sheet).bind fun _ next _ =>
        ih (row + 1) next

theorem performs_styleHeader {row column : Nat} (columns : Nat)
    (h : 0 < columns → Within row column) (sheet : Sheet) :
    Performs (styleHeader row column columns) sheet [] := by
  induction columns generalizing column sheet with
  | zero => exact performs_pure () sheet
  | succ columns ih =>
      have hwithin := h (Nat.succ_pos columns)
      exact (performs_restyle hwithin Style.header sheet).bind fun _ next _ =>
        ih (fun _ => ⟨hwithin.row, Nat.succ_pos column⟩) next

/-! ### What changes no cell -/

theorem After.of_rows (h : next.rows = sheet.rows) : After [] sheet next := by
  intro row column _ _
  rw [cellAt, cellAt, h, List.foldl_nil]

theorem After.bind (h : After [] sheet (Edit.apply edit sheet).2)
    (hf : ∀ a next, After [] next (Edit.apply (f a) next).2) :
    After [] sheet (Edit.apply (edit >>= f) sheet).2 := by
  rw [Edit.apply_bind]
  cases hedit : Edit.apply edit sheet with
  | mk outcome next =>
      rw [hedit] at h
      cases outcome with
      | error error => exact h
      | ok a => exact h.trans (hf a next)

theorem after_fitWidths (limits : WidthLimits) (sheet : Sheet) :
    After [] sheet (Edit.apply (fitWidths limits) sheet).2 := by
  unfold fitWidths
  rw [Edit.apply_bind_of_ok (Edit.apply_get sheet)]
  dsimp only
  split
  · rw [Edit.apply_bind_of_ok (Edit.apply_modify _ sheet)]
    split <;> exact .of_rows rfl
  · exact .of_rows rfl

theorem after_freeze (row : Int) (sheet : Sheet) :
    After [] sheet (Edit.apply (freeze row) sheet).2 := by
  unfold freeze
  by_cases hrow : row < 0
  · rw [if_pos hrow]
    exact .rfl
  · rw [if_neg hrow]
    split <;> exact .of_rows rfl

/-! ### Title blocks -/

/-- Merging covers all cells but the leftmost one, which keeps what it holds. -/
theorem bare_getD_mergedCells {columns : Nat} (h : 1 < columns) (cells : List Cell) (i : Nat) :
    (((mergedCells columns cells)[i]?).getD .blank).bare =
      if 0 < i ∧ i < columns then .hidden else ((cells[i]?).getD .blank).bare := by
  have hlength : columns ≤ (cells.rightpad columns .blank).length := by
    rw [List.length_rightpad]
    exact Nat.le_max_left _ _
  rw [← getD_rightpad columns .blank cells i]
  unfold mergedCells
  cases hpadded : cells.rightpad columns .blank with
  | nil =>
      rw [hpadded, List.length_nil] at hlength
      omega
  | cons first rest =>
      cases i with
      | zero => rfl
      | succ i =>
          rw [hpadded, List.length_cons] at hlength
          dsimp only
          by_cases hi : i + 1 < columns
          · rw [if_pos ⟨Nat.succ_pos i, hi⟩, List.getElem?_append_left (by simp; omega),
              List.getElem?_cons_succ]
            rcases Nat.lt_or_eq_of_le (by omega : i ≤ columns - 2) with hlt | rfl
            · rw [List.getElem?_append_left (by simpa using hlt), List.getElem?_replicate,
                if_pos hlt]
              rfl
            · rw [List.getElem?_append_right (by simp)]
              simp [coveredCell, Cell.bare, Cell.hidden, Cell.blank]
          · rw [if_neg fun hcovered => hi hcovered.2, List.getElem?_append_right (by simp; omega),
              List.getElem?_drop, List.getElem?_cons_succ]
            congr 3
            simp
            omega

theorem after_merge {row columns : Nat} (hrow : 0 < row) (h : 1 < columns) (sheet : Sheet) :
    After [.merged row columns] sheet (sheet.merge row columns) := by
  intro r c hr hc
  obtain ⟨row, rfl⟩ := Nat.exists_eq_succ_of_ne_zero (by omega : row ≠ 0)
  have hcells : (sheet.merge (row + 1) columns).cellAt r c =
      ((if r - 1 = row then mergedCells columns ((sheet.rows[row]?).getD [])
        else (sheet.rows[r - 1]?).getD [])[c - 1]?).getD .blank := by
    rw [cellAt, merge]
    simp only [Nat.add_sub_cancel, getD_modify_rightpad]
  rw [Nat.succ_eq_add_one, hcells, List.foldl_cons, List.foldl_nil, Act.on]
  by_cases hself : r = row + 1
  · subst hself
    rw [if_pos (Nat.add_sub_cancel ..), bare_getD_mergedCells h, cellAt, Nat.add_sub_cancel]
    congr 1
    simp
    omega
  · rw [if_neg (by omega), if_neg (fun hcovered => hself hcovered.1), cellAt]

theorem journaled_writeTitle (title subtitle : Value) (columns : Int) (sheet : Sheet) :
    Journaled (writeTitle title subtitle columns) sheet (titleMerges columns)
      (titleWrites title subtitle) := by
  have hone : Within 1 1 := ⟨by decide, by decide⟩
  have htwo : Within 2 1 := ⟨by decide, by decide⟩
  refine (performs_writeText 1 1 title sheet).journaled_bind fun _ titled _ => ?_
  refine (performs_restyle hone _ titled).journaled_bind fun _ styled _ => ?_
  refine (performs_writeText 2 1 subtitle styled).journaled_bind fun _ both _ => ?_
  refine (performs_restyle htwo _ both).journaled_bind fun _ last _ => .of_after ?_
  unfold titleMerges
  by_cases hwide : 1 < columns
  · rw [if_pos hwide]
    by_cases hlimit : lastColumn < columns
    · rw [if_neg fun h => by omega, if_pos hlimit]
      exact .rfl
    · rw [if_pos ⟨hwide, by omega⟩, if_neg hlimit]
      exact (after_merge (by decide : 0 < 1) (by omega : 1 < columns.toNat) last).trans
        (after_merge (by decide : 0 < 2) (by omega) _)
  · rw [if_neg hwide, if_neg fun h => hwide h.1]
    exact .rfl

/-- A title block is not merged over more columns than there are letters for. -/
theorem columns_le_of_writeTitle {title subtitle : Value} {columns : Int} {after : Int}
    (h : (Edit.apply (writeTitle title subtitle columns) sheet).1 = .ok after) :
    columns ≤ lastColumn := by
  obtain ⟨_, _, -, h⟩ := Edit.ok_of_bind h
  obtain ⟨_, _, -, h⟩ := Edit.ok_of_bind h
  obtain ⟨_, _, -, h⟩ := Edit.ok_of_bind h
  obtain ⟨_, last, -, h⟩ := Edit.ok_of_bind h
  by_contra hbeyond
  rw [if_pos (by simp only [lastColumn] at hbeyond; omega), if_pos (by omega)] at h
  cases h

/-! ### Tables -/

theorem journaled_writeTable (start : Int) (columns : List ColumnSpec) (rows : List (List Value))
    (freezes : Bool) (sheet : Sheet) :
    Journaled (writeTable start columns rows freezes) sheet []
      (tableWrites start columns rows) := by
  have hheader : Performs (writeTexts start 1 (columns.map ColumnSpec.label)) sheet
      (headerWrites start columns) := by
    have htexts := performs_writeTexts start 1 (columns.map ColumnSpec.label) sheet
    rw [List.map_map] at htexts
    exact htexts
  refine hheader.journaled_bind fun _ labelled hlabelled => ?_
  -- The headings get their look only if they were written, and so in a row of the sheet.
  have hstyle : Performs (styleHeader start 1 columns.length) labelled [] := by
    cases columns with
    | nil => exact performs_pure () labelled
    | cons column rest =>
        obtain ⟨r, c, rfl, hc, hwithin⟩ :=
          within_of_takes (hheader.taken () (by rw [hlabelled]) _ List.mem_cons_self)
        have hc : (1 : Int) = c := hc
        obtain rfl : c = 1 := by omega
        exact performs_styleHeader _ (fun _ => hwithin) labelled
  refine hstyle.journaled_bind fun _ styled _ => ?_
  rw [← List.append_nil (rowWrites _ _ _)]
  refine (performs_writeRows (columns.map ColumnSpec.kind) (start + 1) rows styled).journaled_bind
    fun _ written _ => .of_after ?_
  refine (after_fitWidths .default written).bind fun _ fitted => ?_
  cases freezes with
  | false => exact .rfl
  | true => exact (after_freeze (start + 1) fitted).bind fun _ _ => .rfl

end ArtifactSearch.Sheet
