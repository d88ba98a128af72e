import ArtifactSearch.Proofs.Workbook.Confined
import ArtifactSearch.Proofs.Workbook.History

/-!
# ArtifactSearch.Proofs.Workbook.Stacking

**Tables can be put below each other.** A table that is written answers the row after its block,
and changes nothing beside the block, on its sheet or on another one (`of_step_table`). So tables
that each start at the row that was answered before, or further down (`Stacked`), never change what
stands above, a title block included (`Stacked.keeps_above`).
-/

namespace ArtifactSearch

/-- The number of data rows: one for each record, or for each row of a frame. A frame without
columns has no rows to write. -/
def TableData.height : TableData → Nat
  | .records entries => entries.length
  | .frame columns rows => if columns.isEmpty then 0 else rows.length

theorem TableData.length_rows {columns : List ColumnSpec} {data : TableData}
    {rows : List (List Value)} (h : data.rows columns = .ok rows) : rows.length = data.height := by
  cases data with
  | records entries =>
      cases h
      rw [List.length_map, height]
  | frame names cells =>
      unfold TableData.rows Frame.ofRows at h
      dsimp only at h
      split at h
      · cases h
        rw [height]
        dsimp only
        split
        · rfl
        · exact List.length_map _
      · cases h

namespace Workbook

open Sheet

variable {book next : Workbook} {number : Int} {position : Nat}

/-! ### One table -/

theorem position?_congr (h : next.added.length = book.added.length) (number : Int) :
    next.position? number = book.position? number := by
  rw [position?, position?, h]

/-- A table that is written fills its block on one sheet, and answers the row after it. -/
theorem of_step_table {start : Int} {columns : List ColumnSpec} {data : TableData}
    {freezes : Bool} {outcome : Outcome}
    (h : book.step (.table number start columns data freezes) = (.ok outcome, next)) :
    outcome = .nextRow (start + 1 + data.height) ∧
    ∃ position, book.position? number = some position ∧
      next.added.length = book.added.length ∧
      (∀ other, other ≠ position → next.added[other]? = book.added[other]?) ∧
      Keeps (tableBlock start data.height columns.length)
        (book.sheetAt position) (next.sheetAt position) := by
  rw [step, addTable] at h
  cases hnumber : book.position? number with
  | none =>
      rw [hnumber] at h
      cases h
  | some position =>
      rw [hnumber] at h
      cases hrows : data.rows columns with
      | error cause =>
          rw [hrows] at h
          cases h
      | ok rows =>
          rw [hrows] at h
          dsimp only at h
          rw [editSheet_of_position hnumber, Prod.mk.injEq] at h
          obtain ⟨houtcome, rfl⟩ := h
          have hkeeps := confined_writeTable start columns rows freezes (book.sheetAt position)
          rw [TableData.length_rows hrows] at hkeeps
          refine ⟨?_, position, rfl, List.length_set, fun other hother => ?_, ?_⟩
          · cases hwritten : (Edit.apply (writeTable start columns rows freezes)
                (book.sheetAt position)).1 with
            | error error =>
                rw [hwritten] at houtcome
                cases houtcome
            | ok after =>
                rw [hwritten] at houtcome
                cases houtcome
                rw [row_of_writeTable hwritten, TableData.length_rows hrows]
          · exact List.getElem?_set_ne (Ne.symm hother)
          · rw [sheetAt_set (position?_lt hnumber), if_pos rfl]
            exact hkeeps

/-- A title block that is written is on one sheet, adds none, and answers the row after it. -/
theorem of_step_title {title subtitle : Value} {width : Int} {outcome : Outcome}
    (h : book.step (.title number title subtitle width) = (.ok outcome, next)) :
    outcome = .nextRow rowAfterTitle ∧
    ∃ position, book.position? number = some position ∧
      next.added.length = book.added.length := by
  rw [step] at h
  obtain ⟨position, after, hposition, hafter⟩ := ok_of_editSheet (congrArg Prod.fst h)
  rw [editSheet_of_position hposition, Prod.mk.injEq, hafter] at h
  obtain ⟨houtcome, rfl⟩ := h
  cases houtcome
  exact ⟨by rw [row_of_writeTitle hafter], position, hposition, List.length_set⟩

/-! ### One table after another -/

/-- Tables that are written to one sheet, each from a row on that is not above the one answered
before. -/
inductive Stacked (number : Int) : Workbook → Int → List Step → Prop
  /-- No table is left. -/
  | nil (book : Workbook) (row : Int) : Stacked number book row []
  /-- A table, and others behind it. -/
  | cons {book next : Workbook} {row start behind : Int} {columns : List ColumnSpec}
      {data : TableData} {freezes : Bool} {rest : List Step}
      (free : row ≤ start)
      (written : book.step (.table number start columns data freezes)
        = (.ok (.nextRow behind), next))
      (others : Stacked number next behind rest) :
      Stacked number book row (.table number start columns data freezes :: rest)

/-- However many of the tables are written, all cells above them are what they were. -/
theorem Stacked.keeps_above {row : Int} {tables : List Step} (h : Stacked number book row tables)
    (hposition : book.position? number = some position) (count : Nat) {r c : Nat} (hr : 0 < r)
    (hc : 0 < c) (habove : r < row) :
    ((book.run (tables.take count)).2.sheetAt position).cellAt r c
      = (book.sheetAt position).cellAt r c := by
  induction h generalizing count with
  | nil => rw [List.take_nil, run]
  | cons free written others ih =>
      cases count with
      | zero => rfl
      | succ count =>
          obtain ⟨houtcome, found, hfound, hlength, -, hkeeps⟩ := of_step_table written
          obtain rfl : position = found := Option.some.inj (hposition.symm.trans hfound)
          have hbehind := Outcome.nextRow.inj houtcome
          -- The row that is answered is further down, so what is above stays above.
          have hrest := ih ((position?_congr hlength number).trans hposition) count (by omega)
          have hbeside := hkeeps.cells r c hr hc fun hhas => by
            simp only [Block.Has, tableBlock] at hhas
            omega
          rw [List.take_succ_cons, run, written]
          exact hrest.trans hbeside

/-- A call answers a row above which no later one changes a cell. The calls are tables behind the
first one. -/
theorem Stacked.keeps_earlier {first : Step} {row : Int} {tables : List Step}
    (hfirst : book.step first = (.ok (.nextRow row), next)) (h : Stacked number next row tables)
    (hposition : next.position? number = some position) {i : Nat}
    (hi : i < (first :: tables).length) :
    ∃ behind, (book.run (first :: tables)).1[i]? = some (.ok (.nextRow behind)) ∧
      ∀ j, i < j → ∀ r c : Nat, 0 < r → 0 < c → r < behind →
        ((book.run ((first :: tables).take j)).2.sheetAt position).cellAt r c
          = ((book.run ((first :: tables).take (i + 1))).2.sheetAt position).cellAt r c := by
  -- On the call. Behind the first one, the table after it is the first of the remaining calls.
  induction i generalizing book next first row tables with
  | zero =>
      refine ⟨row, ?_, fun j hj r c hr hc habove => ?_⟩
      · rw [run, hfirst]
        rfl
      · obtain ⟨j, rfl⟩ := Nat.exists_eq_succ_of_ne_zero (by omega : j ≠ 0)
        rw [Nat.succ_eq_add_one, List.take_succ_cons, List.take_succ_cons, run, run, hfirst]
        exact (h.keeps_above hposition j hr hc habove).trans
          (h.keeps_above hposition 0 hr hc habove).symm
  | succ i ih =>
      cases h with
      | nil => simp at hi
      | cons free written others =>
          obtain ⟨-, found, -, hlength, -⟩ := of_step_table written
          obtain ⟨behind, houtcome, hkeeps⟩ := ih written others
            ((position?_congr hlength number).trans hposition) (Nat.lt_of_succ_lt_succ hi)
          refine ⟨behind, ?_, fun j hj r c hr hc habove => ?_⟩
          · rw [run, hfirst]
            exact houtcome
          · obtain ⟨j, rfl⟩ := Nat.exists_eq_succ_of_ne_zero (by omega : j ≠ 0)
            have hlater := hkeeps j (by omega) r c hr hc habove
            rw [Nat.succ_eq_add_one, List.take_succ_cons, List.take_succ_cons, run, run, hfirst]
            exact hlater

/-- **Tables can be put below each other.** A table that is written answers the row after its
heading and its data rows. All cells beside its block keep what they hold and look like, and so do
what is merged and all other sheets; only the widths of the columns and what is frozen may change.
If a title block and then tables are written, each from the row on that was answered before, or
further down, then every call answers a row above which no later call changes a cell. -/
theorem tables_stack (book : Workbook) (number : Int) :
    (∀ start columns data freezes outcome next,
      book.step (.table number start columns data freezes) = (.ok outcome, next) →
      outcome = .nextRow (start + 1 + data.height) ∧
      ∃ position, book.position? number = some position ∧
        next.added.length = book.added.length ∧
        (∀ other, other ≠ position → next.added[other]? = book.added[other]?) ∧
        (next.sheetAt position).title = (book.sheetAt position).title ∧
        (next.sheetAt position).merged = (book.sheetAt position).merged ∧
        ∀ r c : Nat, 0 < r → 0 < c →
          ¬ ((start ≤ r ∧ r < start + 1 + data.height) ∧ c ≤ columns.length) →
          (next.sheetAt position).cellAt r c = (book.sheetAt position).cellAt r c) ∧
    ∀ title subtitle width row titled tables,
      book.step (.title number title subtitle width) = (.ok (.nextRow row), titled) →
      Stacked number titled row tables →
      let calls := .title number title subtitle width :: tables
      row = rowAfterTitle ∧
      ∃ position, book.position? number = some position ∧
        ∀ i, i < calls.length →
          ∃ behind, (book.run calls).1[i]? = some (.ok (.nextRow behind)) ∧
            ∀ j, i < j → ∀ r c : Nat, 0 < r → 0 < c → r < behind →
              ((book.run (calls.take j)).2.sheetAt position).cellAt r c
                = ((book.run (calls.take (i + 1))).2.sheetAt position).cellAt r c := by
  constructor
  · intro start columns data freezes outcome next h
    obtain ⟨houtcome, position, hposition, hlength, hothers, hkeeps⟩ := of_step_table h
    refine ⟨houtcome, position, hposition, hlength, hothers, hkeeps.title, hkeeps.merged, ?_⟩
    intro r c hr hc hbeside
    refine hkeeps.cells r c hr hc fun hhas => hbeside ?_
    simp only [Block.Has, tableBlock] at hhas
    omega
  · intro title subtitle width row titled tables htitle hstacked calls
    obtain ⟨hrow, position, hposition, hlength⟩ := of_step_title htitle
    refine ⟨Outcome.nextRow.inj hrow, position, hposition, fun i hi => ?_⟩
    exact hstacked.keeps_earlier htitle ((position?_congr hlength number).trans hposition) hi

/-- A title block over three columns, a table of records of which one lacks a value, and below it
a table of a frame with a row that is too short and a column too many. -/
theorem tables_stack_two :
    let book : Workbook := ⟨[Sheet.empty "Report".toList]⟩
    let title : Step := .title 0 (.text "Hits".toList) .nothing 3
    let first : Step := .table 0 4
      [⟨"a".toList, .index, "A".toList⟩, ⟨"b".toList, .number, "B".toList⟩]
      (.records [[("a".toList, .text "x".toList), ("b".toList, .number 1)],
        [("b".toList, .text "=1".toList)]]) true
    let second : Step := .table 0 8 [⟨"c".toList, .text, "C".toList⟩]
      (.frame ["p".toList, "q".toList] [[.text "1".toList, .truth true], [.number 2]]) false
    let calls := [title, first, second]
    let titled := (book.step title).2
    let once := (titled.step first).2
    let twice := (once.step second).2
    book.step title = (.ok (.nextRow 4), titled) ∧ Stacked 0 titled 4 [first, second] ∧
      once.step second = (.ok (.nextRow 11), twice) ∧
      (twice.sheetAt 0).cellAt 9 2 = (once.sheetAt 0).cellAt 9 2 ∧
      (∀ r c : Nat, 0 < r → 0 < c → (r : Int) < 7 →
        ((book.run (calls.take 3)).2.sheetAt 0).cellAt r c
          = ((book.run (calls.take 2)).2.sheetAt 0).cellAt r c) ∧
      (((book.run (calls.take 3)).2.sheetAt 0).cellAt 6 2).kind = .formula := by
  intro book title first second calls titled once twice
  have htitle : (book.step title).1 = .ok (.nextRow 4) := by decide +kernel
  have hfirst : (titled.step first).1 = .ok (.nextRow 7) := by decide +kernel
  have hsecond : (once.step second).1 = .ok (.nextRow 11) := by decide +kernel
  have htitled : book.step title = (.ok (.nextRow 4), titled) := Prod.ext htitle rfl
  have hwritten : once.step second = (.ok (.nextRow 11), twice) := Prod.ext hsecond rfl
  have hstacked : Stacked 0 titled 4 [first, second] :=
    .cons (by decide) (Prod.ext hfirst rfl) (.cons (by decide) hwritten (.nil _ _))
  obtain ⟨-, position, hposition, hcalls⟩ :=
    (tables_stack book 0).2 _ _ _ _ _ _ htitled hstacked
  obtain rfl : 0 = position := Option.some.inj hposition
  obtain ⟨behind, houtcome, hkeeps⟩ := hcalls 1 (by decide)
  have hseven : (book.run calls).1[1]? = some (.ok (.nextRow 7)) := by decide +kernel
  obtain rfl : 7 = behind :=
    Outcome.nextRow.inj (Except.ok.inj (Option.some.inj (hseven.symm.trans houtcome)))
  obtain ⟨-, place, hplace, -, -, -, -, hbeside⟩ := (tables_stack once 0).1 _ _ _ _ _ _ hwritten
  have hfound : once.position? 0 = some 0 := by decide +kernel
  obtain rfl : 0 = place := Option.some.inj (hfound.symm.trans hplace)
  refine ⟨htitled, hstacked, hwritten, ?_, hkeeps 3 (by decide), by decide +kernel⟩
  exact hbeside 9 2 (by decide) (by decide) (by decide)

end Workbook

end ArtifactSearch
