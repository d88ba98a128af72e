import ArtifactSearch.Proofs.Workbook.Limits

/-!
# ArtifactSearch.Proofs.Workbook.Injection

**No text becomes a formula.** A formula comes only of a value for a column of numbers.
Every other value is marked as text the moment it is written, and nothing that happens to
its cell later takes the mark away without taking the text away (`Workbook.Shows`). What
decides is therefore the value written last, over any sequence of steps, whether they
fail or not. In reports the only values for a column of numbers are the counts of the
profiles (`Report.count_of_fields`).
-/

namespace ArtifactSearch

open Sheet

/-- A cell with a text in it that is marked as text. -/
def Cell.IsText (cell : Cell) : Prop := cell.kind = .text ∧ ∃ s, cell.value = .text s

namespace Workbook

variable {row column : Nat} {history : List Act} {cell : Cell}

/-- What was written last, but not as a number, is text. -/
theorem Shows.text (h : Shows row column history cell) {write : Write}
    (hlast : lastWrite row column history = some write) (hkind : write.kind ≠ .number)
    (hvalue : cell.value ≠ .nothing) :
    cell.kind = .text ∧ cell.value = .text (plainText write.value) := by
  have hcontent := write.content_of_ne hkind
  cases h with
  | nothing value kind => exact absurd value hvalue
  | last other last value kind =>
      cases hlast.symm.trans last
      rw [hcontent] at value kind
      exact ⟨kind.elim id And.left, value⟩

/-- What is no text was written last as a number. -/
theorem Shows.number (h : Shows row column history cell)
    (hcell : cell.kind = .formula ∨ cell.kind = .errorCode ∨
      cell.value ≠ .nothing ∧ ∀ s, cell.value ≠ .text s) :
    ∃ write, lastWrite row column history = some write ∧ write.kind = .number := by
  cases h with
  | nothing value kind =>
      rcases hcell with hformula | herror | ⟨hvalue, -⟩
      · rcases kind with kind | kind <;> cases hformula.symm.trans kind
      · rcases kind with kind | kind <;> cases herror.symm.trans kind
      · exact absurd value hvalue
  | last write last value kind =>
      refine ⟨write, last, ?_⟩
      by_contra hkind
      rw [write.content_of_ne hkind] at value kind
      have htext : cell.kind = .text := kind.elim id And.left
      rcases hcell with hformula | herror | ⟨-, hvalue⟩
      · cases hformula.symm.trans htext
      · cases herror.symm.trans htext
      · exact hvalue _ value

end Workbook

namespace Report

open Workbook

variable {store : Store} {hits : List (Hit Text)} {step : Step} {write : Write} {number : Int}

/-! ### What reports write -/

/-- The value is the count in a row of the profiles. -/
def IsCount (store : Store) (hits : List (Hit Text)) (write : Write) : Prop :=
  ∃ (i : Nat) (name field value : Text) (count : Nat),
    (profileRows store hits)[i]? = some [.text name, .text field, .text value, .number count] ∧
      write.row = 5 + i ∧ write.column = 4 ∧ write.kind = .number ∧ write.value = .number count

theorem isCount_of_mem (h : write ∈ tableWrites 4 profileColumns (profileRows store hits))
    (hkind : write.kind = .number) : IsCount store hits write := by
  rcases List.mem_append.mp h with hheader | hdata
  · cases (kind_of_mem_headerWrites hheader).symm.trans hkind
  · obtain ⟨i, values, hi, hvalues⟩ := mem_rowWrites.mp hdata
    obtain ⟨j, hj, hrow, hcolumn⟩ := mem_valueWrites.mp hvalues
    obtain ⟨name, field, value, count, rfl⟩ :=
      exists_of_mem_profileRows (List.mem_of_getElem? hi)
    rw [hkind] at hj
    -- Only the fourth column is one of numbers.
    rcases j with _ | _ | _ | _ | j
    · cases congrArg (Option.map Prod.fst) hj
    · cases congrArg (Option.map Prod.fst) hj
    · cases congrArg (Option.map Prod.fst) hj
    · exact ⟨i, name, field, value, count, hi, hrow, hcolumn, hkind,
        (congrArg Prod.snd (Option.some.inj hj)).symm⟩
    · cases hj

theorem kind_or_isCount (hstep : step ∈ steps store hits) (htarget : target? step = some number)
    (hwrite : write ∈ plan step) :
    write.kind ≠ .number ∨ number = 1 ∧ IsCount store hits write := by
  have htext : write.kind = .text → write.kind ≠ .number := fun hkind => by
    rw [hkind]
    decide
  simp only [steps, resultSteps, profileSteps, List.cons_append, List.nil_append,
    List.mem_cons, List.not_mem_nil, or_false] at hstep
  rcases hstep with rfl | rfl | rfl | rfl | rfl | rfl
  · cases htarget
  · exact .inl (htext (kind_of_mem_titleWrites hwrite))
  · rw [plan, rows_results] at hwrite
    rcases kind_of_mem_tableWrites hwrite with hkind | ⟨column, hcolumn, hkind⟩
    · exact .inl (htext hkind)
    · exact .inl (hkind ▸ kind_ne_number hcolumn)
  · cases htarget
  · exact .inl (htext (kind_of_mem_titleWrites hwrite))
  · rw [plan, rows_profiles] at hwrite
    by_cases hkind : write.kind = .number
    · exact .inr ⟨(Option.some.inj htarget).symm, isCount_of_mem hwrite hkind⟩
    · exact .inl hkind

theorem number_of_target (hstep : step ∈ steps store hits) (htarget : target? step = some number) :
    0 ≤ number := by
  simp only [steps, resultSteps, profileSteps, List.cons_append, List.nil_append,
    List.mem_cons, List.not_mem_nil, or_false] at hstep
  rcases hstep with rfl | rfl | rfl | rfl | rfl | rfl <;> cases htarget <;> decide

/-! ### What reports hold -/

variable {position row column : Nat}

theorem kind_or_isCount_of_written
    (h : .written write ∈ Workbook.empty.history position (steps store hits)) :
    write.kind ≠ .number ∨ position = 1 ∧ IsCount store hits write := by
  obtain ⟨step, hstep, ⟨number, htarget, other, hposition⟩, hact⟩ := mem_history h
  rcases hact with ⟨other, hwrite, hact⟩ | ⟨other, -, -, hact⟩ | ⟨row, columns, hact⟩
  · cases hact
    have hnumber := eq_of_position? (number_of_target hstep htarget) hposition
    refine (kind_or_isCount hstep htarget hwrite).imp id fun ⟨hone, hcount⟩ => ⟨?_, hcount⟩
    omega
  · cases hact
  · cases hact

/-- No value of a report is refused. -/
theorem refused_not_mem :
    .refused write ∉ Workbook.empty.history position (steps store hits) := by
  intro h
  obtain ⟨step, hstep, ⟨number, htarget, -⟩, hact⟩ := mem_history h
  rcases hact with ⟨other, -, hact⟩ | ⟨other, hwrite, hrefused, hact⟩ | ⟨row, columns, hact⟩
  · cases hact
  · rcases kind_or_isCount hstep htarget hwrite with
      hkind | ⟨-, _, _, _, _, _, -, -, -, hkind, hvalue⟩
    · rw [other.isRefused_of_ne hkind] at hrefused
      cases hrefused
    · rw [Write.isRefused, hkind, hvalue] at hrefused
      cases hrefused
  · cases hact

/-- A cell of a report with something in it is text or a count. -/
theorem isText_or_count {cell : Cell}
    (h : Shows row column (Workbook.empty.history position (steps store hits)) cell)
    (hvalue : cell.value ≠ .nothing) :
    cell.IsText ∨ position = 1 ∧ column = 4 ∧ cell.kind = .number ∧
      ∃ (i : Nat) (name field value : Text) (count : Nat), row = 5 + i ∧
        (profileRows store hits)[i]? = some [.text name, .text field, .text value, .number count] ∧
        cell.value = .number count := by
  cases h with
  | nothing value kind => exact absurd value hvalue
  | last write hlast value kind =>
      obtain ⟨hmem, hat⟩ := of_lastWrite hlast
      rcases kind_or_isCount_of_written hmem with hkind | ⟨hposition, hcount⟩
      · rw [write.content_of_ne hkind] at value kind
        exact .inl ⟨kind.elim id And.left, _, value⟩
      · obtain ⟨i, name, field, shown, count, hi, hwrow, hwcolumn, hkind, hcount⟩ := hcount
        have hcontent : write.content = (.number count, .number) := by
          rw [Write.content, hkind, hcount]
          rfl
        rw [hcontent] at value kind
        have hnumber : cell.kind = .number :=
          kind.elim id fun ⟨_, other, hother⟩ => absurd hother refused_not_mem
        have hrow := hwrow.symm.trans hat.1
        have hcolumn := hwcolumn.symm.trans hat.2
        exact .inr ⟨hposition, by omega, hnumber, i, name, field, shown, count, by omega, hi, value⟩

end Report

/-- **No formula injection.** Whatever steps write a workbook, and whether they fail or not, a
cell holds what its history makes of it. A cell with a formula, the code of an error or a value
that is no text was written last as a value of a column of numbers, and a cell with something
in it that was written last as anything else is marked as text and holds the text of that
value, without control characters and cut to what a cell can hold. In the workbook of a report,
whatever the store and the results are, the only cells with something in them that are not text
are the counts in the fourth column of the profiles. -/
theorem Workbook.no_injection :
    (∀ (steps : List Workbook.Step) (position : Nat) (sheet : Sheet),
      (Workbook.empty.run steps).2.sheets[position]? = some sheet →
      ∀ row column : Nat, 0 < row → 0 < column →
        let cell := sheet.cellAt row column
        let history := Workbook.empty.history position steps
        let last := lastWrite row column history
        cell.bare = history.foldl (Act.on row column) .blank ∧
        (cell.kind = .formula ∨ cell.kind = .errorCode ∨
            (cell.value ≠ .nothing ∧ ∀ s, cell.value ≠ .text s) →
          ∃ write, last = some write ∧ write.kind = .number) ∧
        ∀ write, last = some write → write.kind ≠ .number → cell.value ≠ .nothing →
          cell.kind = .text ∧
            cell.value = .text ((write.value.toText.filter fun c => !isControl c).take maxText)) ∧
    ∀ (store : Store) (hits : List (Hit Text)) (book : Workbook),
      Report.workbook store hits = .ok book →
      ∃ results fields : Sheet, book.sheets = [results, fields] ∧
        results.title = "Results".toList ∧ fields.title = "Fields".toList ∧
        ∀ row column : Nat, 0 < row → 0 < column →
          ((results.cellAt row column).value ≠ .nothing → (results.cellAt row column).IsText) ∧
          ((fields.cellAt row column).value ≠ .nothing → (fields.cellAt row column).IsText ∨
            column = 4 ∧ (fields.cellAt row column).kind = .number ∧
              ∃ (i : Nat) (name field value : Text) (count : Nat), row = 5 + i ∧
                (Report.profileRows store hits)[i]?
                  = some [.text name, .text field, .text value, .number count] ∧
                (fields.cellAt row column).value = .number count) := by
  refine ⟨fun steps position sheet hsheet row column hrow hcolumn => ?_,
    fun store hits book hbook => ?_⟩
  · have hbare := bare_run steps position hrow hcolumn
    have hshows := shows_run steps position hrow hcolumn
    rw [sheets_getElem? hsheet] at hbare hshows
    exact ⟨hbare, hshows.number, fun write hlast hkind hvalue => hshows.text hlast hkind hvalue⟩
  · have hfits := Report.fits_of_workbook hbook
    obtain ⟨results, fields, hmade, hresults, hfields⟩ :=
      Report.exists_workbook hfits.width hfits.height hfits.profiles
    cases hbook.symm.trans hmade
    have hrun : (Workbook.empty.run (Report.steps store hits)).2 = ⟨[results, fields]⟩ :=
      run_of_build hbook
    refine ⟨results, fields, rfl, hresults.title, hfields.title,
      fun row column hrow hcolumn => ⟨fun hvalue => ?_, fun hvalue => ?_⟩⟩
    · have hshows := shows_run (Report.steps store hits) 0 hrow hcolumn
      rw [hrun] at hshows
      rcases Report.isText_or_count hshows hvalue with htext | ⟨hzero, -⟩
      · exact htext
      · cases hzero
    · have hshows := shows_run (Report.steps store hits) 1 hrow hcolumn
      rw [hrun] at hshows
      exact (Report.isText_or_count hshows hvalue).imp id And.right

/-- A formula among numbers, the same text as a text, and both in one cell. -/
example :
    let formula : Value := .text "=1+1".toList
    let steps : List Workbook.Step := [.addSheet "S".toList, .data 0 .number 1 1 formula,
      .text 0 1 2 formula, .data 0 .number 1 3 formula, .data 0 .index 1 3 formula]
    let sheet := (Workbook.empty.run steps).2.sheetAt 0
    [1, 2, 3].map (fun column => (sheet.cellAt 1 column).kind) = [.formula, .text, .text] := by
  decide

end ArtifactSearch
