import ArtifactSearch.Csv.Escape
import ArtifactSearch.Csv.Fields
import ArtifactSearch.Proofs.Text.Trim

/-!
# ArtifactSearch.Proofs.Csv.Fields

What the scanner reads from **written rows** and from **any line**.

* `fields_row`: the fields of a written row are its values, trimmed. A written
  value leaves the scanner outside quotes with exactly that value under way
  (`run_escape`), whatever quotes, commas and line feeds it holds.
* `isCell_of_mem_fields`: whatever the line, each of its fields is a **cell**,
  trimmed and on one line. The scanner never makes characters up, and trims a
  field when it finishes it (`Scan.Sound`).

So reading and writing come to a rest: the fields of any line, written as a row, are read
as the same fields (`fields_of_written`).
-/

namespace ArtifactSearch.Csv

/-- The texts that stand in tables: trimmed at the edges and without line feeds. -/
structure IsCell (s : Text) : Prop where
  /-- No edge blank stands at either end. -/
  trimmed : Text.Trimmed Blank.isEdge s
  /-- No line feed stands anywhere. -/
  oneLine : '\n' ∉ s

theorem isCell_nil : IsCell [] := ⟨Text.trimmed_nil, by simp⟩

/-! ### Written values -/

theorem run_bare {s : Text} (h : ∀ c ∈ s, c ≠ '"' ∧ c ≠ ',') (current : Text)
    (done : List Text) :
    Scan.run ⟨.bare, current, done⟩ s = ⟨.bare, s.reverse ++ current, done⟩ := by
  induction s generalizing current with
  | nil => rfl
  | cons c rest ih =>
      obtain ⟨hc, hrest⟩ := List.forall_mem_cons.mp h
      have hstep : Scan.step ⟨.bare, current, done⟩ c = ⟨.bare, c :: current, done⟩ := by
        simp [Scan.step, Scan.stepBare, hc]
      rw [Scan.run_cons, hstep, ih hrest]
      simp

theorem run_quoted (s current : Text) (done : List Text) :
    Scan.run ⟨.quoted, current, done⟩ (s.flatMap inQuotes)
      = ⟨.quoted, s.reverse ++ current, done⟩ := by
  induction s generalizing current with
  | nil => rfl
  | cons c rest ih =>
      have hc : Scan.run ⟨.quoted, current, done⟩ (inQuotes c) = ⟨.quoted, c :: current, done⟩ := by
        by_cases h : c = '"'
        · subst h
          rfl
        · simp [inQuotes, Scan.step, h]
      rw [List.flatMap_cons, Scan.run_append, hc, ih]
      simp

/-- Reading a written value leaves the value under way, outside quotes or just
behind the closing one. -/
theorem run_escape (value : Text) (done : List Text) :
    ∃ mode, mode ≠ .quoted ∧
      Scan.run ⟨.bare, [], done⟩ (escape value) = ⟨mode, value.reverse, done⟩ := by
  unfold escape
  split
  · refine ⟨.closing, by simp, ?_⟩
    -- Only the character behind it tells whether the last quote closes.
    have hopen : Scan.step ⟨.bare, [], done⟩ '"' = ⟨.quoted, [], done⟩ := rfl
    rw [Scan.run_cons, hopen, Scan.run_append, run_quoted]
    simp [Scan.step]
  · rename_i h
    have hplain : ∀ c ∈ value, c ≠ '"' ∧ c ≠ ',' := fun c hc => by
      have hneeds : needsQuotes c = false := by simp_all
      simp only [needsQuotes, Bool.or_eq_false_iff, beq_eq_false_iff_ne] at hneeds
      exact ⟨hneeds.1.2, hneeds.1.1⟩
    refine ⟨.bare, by simp, ?_⟩
    rw [run_bare hplain]
    simp

/-- Outside quotes a comma finishes the field under way. -/
theorem step_comma {mode : Mode} (h : mode ≠ .quoted) (current : Text) (done : List Text) :
    Scan.step ⟨mode, current, done⟩ ',' =
      ⟨.bare, [], Text.trim Blank.isEdge current.reverse :: done⟩ := by
  cases mode with
  | bare => rfl
  | quoted => exact absurd rfl h
  | closing => rfl

/-- Reading a written row adds its values to the finished fields, trimmed. -/
theorem finish_run_row (value : Text) (rest done : List Text) :
    (Scan.run ⟨.bare, [], done⟩ (row (value :: rest))).finish
      = done.reverse ++ (value :: rest).map (Text.trim Blank.isEdge) := by
  -- Each comma stands outside quotes and finishes the value before it.
  induction rest generalizing value done with
  | nil =>
      obtain ⟨mode, -, hrun⟩ := run_escape value done
      have hrow : row [value] = escape value := by simp [row]
      rw [hrow, hrun]
      simp [Scan.finish, Scan.field]
  | cons next rest ih =>
      obtain ⟨mode, hmode, hrun⟩ := run_escape value done
      have hrow : row (value :: next :: rest) = escape value ++ ',' :: row (next :: rest) := by
        simp [row, Text.join_cons_cons]
      rw [hrow, Scan.run_append, hrun, Scan.run_cons, step_comma hmode, ih]
      simp

/-- The fields of a written row are its values without their edge blanks. -/
theorem fields_row {values : List Text} (h : values ≠ []) :
    fields (row values) = values.map (Text.trim Blank.isEdge) := by
  cases values with
  | nil => exact absurd rfl h
  | cons value rest =>
      have hrun := finish_run_row value rest []
      simpa [fields, Scan.start] using hrun

theorem map_trim_eq_self {values : List Text} (h : ∀ v ∈ values, Text.Trimmed Blank.isEdge v) :
    values.map (Text.trim Blank.isEdge) = values :=
  calc values.map (Text.trim Blank.isEdge)
      = values.map id := List.map_congr_left fun v hv => Text.trim_eq_self (h v hv)
    _ = values := List.map_id values

/-! ### Fields of any line -/

/-- Every character the scanner holds satisfies `p`, and the finished fields are
trimmed. -/
structure Scan.Sound (p : Char → Prop) (s : Scan) : Prop where
  /-- The characters of the field under way. -/
  current : ∀ c ∈ s.current, p c
  /-- The characters of the finished fields. -/
  done : ∀ f ∈ s.done, ∀ c ∈ f, p c
  /-- The finished fields. -/
  trimmed : ∀ f ∈ s.done, Text.Trimmed Blank.isEdge f

variable {p : Char → Prop}

theorem Scan.Sound.field {s : Scan} (h : s.Sound p) : ∀ c ∈ s.field, p c := by
  intro c hc
  have hmem : c ∈ s.current.reverse := Text.mem_of_mem_trim hc
  exact h.current c (List.mem_reverse.mp hmem)

theorem Scan.Sound.stepBare {s : Scan} (h : s.Sound p) {c : Char} (hc : p c) :
    (s.stepBare c).Sound p := by
  unfold Scan.stepBare
  split
  · exact ⟨h.current, h.done, h.trimmed⟩
  · split
    · refine ⟨by simp, ?_, ?_⟩
      · exact List.forall_mem_cons.mpr ⟨h.field, h.done⟩
      · exact List.forall_mem_cons.mpr ⟨Text.trimmed_trim _, h.trimmed⟩
    · exact ⟨List.forall_mem_cons.mpr ⟨hc, h.current⟩, h.done, h.trimmed⟩

theorem Scan.Sound.step {s : Scan} (h : s.Sound p) {c : Char} (hc : p c) :
    (s.step c).Sound p := by
  unfold Scan.step
  split
  · exact h.stepBare hc
  · split
    · exact ⟨h.current, h.done, h.trimmed⟩
    · exact ⟨List.forall_mem_cons.mpr ⟨hc, h.current⟩, h.done, h.trimmed⟩
  · split
    · rename_i hquote
      -- The quote that is kept is the one just read.
      exact ⟨List.forall_mem_cons.mpr ⟨hquote ▸ hc, h.current⟩, h.done, h.trimmed⟩
    · exact h.stepBare hc

theorem Scan.Sound.run {s : Scan} (h : s.Sound p) {line : Text} (hline : ∀ c ∈ line, p c) :
    (s.run line).Sound p := by
  induction line generalizing s with
  | nil => exact h
  | cons c rest ih =>
      have hstep : (s.step c).Sound p := h.step (hline c (by simp))
      exact ih hstep (fun d hd => hline d (by simp [hd]))

theorem Scan.sound_start : Scan.start.Sound p := ⟨by simp [start], by simp [start], by simp [start]⟩

/-- A field has only characters of its line. -/
theorem mem_of_mem_fields {line f : Text} {c : Char} (hf : f ∈ fields line) (hc : c ∈ f) :
    c ∈ line := by
  have hrun : (Scan.start.run line).Sound (· ∈ line) := Scan.sound_start.run fun _ h => h
  rw [fields, Scan.finish, List.mem_reverse, List.mem_cons] at hf
  rcases hf with rfl | hf
  · exact hrun.field c hc
  · exact hrun.done f hf c hc

theorem trimmed_of_mem_fields {line f : Text} (hf : f ∈ fields line) :
    Text.Trimmed Blank.isEdge f := by
  have hrun : (Scan.start.run line).Sound (fun _ => True) :=
    Scan.sound_start.run fun _ _ => trivial
  rw [fields, Scan.finish, List.mem_reverse, List.mem_cons] at hf
  rcases hf with rfl | hf
  · exact Text.trimmed_trim _
  · exact hrun.trimmed f hf

/-- The fields of a line without line feeds are cells. -/
theorem isCell_of_mem_fields {line f : Text} (hline : '\n' ∉ line) (hf : f ∈ fields line) :
    IsCell f :=
  ⟨trimmed_of_mem_fields hf, fun hc => hline (mem_of_mem_fields hf hc)⟩

/-- **Reading undoes writing.** The fields of a written row are its values without their edge
blanks, whatever characters the values hold, as long as there is a value at all. Therefore the
fields of any line, written as a row, are read as the same fields again. -/
theorem fields_of_written {values : List Text} (h : values ≠ []) (line : Text) :
    fields (row values) = values.map (Text.trim Blank.isEdge) ∧
      fields (row (fields line)) = fields line := by
  have hagain : fields (row (fields line)) = (fields line).map (Text.trim Blank.isEdge) :=
    fields_row (fields_ne_nil line)
  exact ⟨fields_row h, hagain.trans (map_trim_eq_self fun _ hf => trimmed_of_mem_fields hf)⟩

/-- Values with quotes at either end, a line end and nothing, and a line with a quote that is
never closed. -/
theorem fields_of_written_quotes :
    let values := ["\"\",\"".toList, "\ta\r\nb ".toList, [], ",".toList]
    let line := "\"a\"\"\" b ,,\"c, ".toList
    values ≠ [] ∧ row values = "\"\"\"\"\",\"\"\",\"\ta\r\nb \",,\",\"".toList ∧
      fields (row values) = ["\"\",\"".toList, "a\r\nb".toList, [], ",".toList] ∧
      fields line = ["a\" b".toList, [], "c,".toList] ∧
      fields (row (fields line)) = fields line := by
  intro values line
  have h : values ≠ [] := List.cons_ne_nil _ _
  obtain ⟨hvalues, hline⟩ := fields_of_written h line
  exact ⟨h, by decide, hvalues.trans (by decide), by decide, hline⟩

end ArtifactSearch.Csv
