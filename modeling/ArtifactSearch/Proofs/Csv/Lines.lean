import ArtifactSearch.Csv.Lines
import ArtifactSearch.Proofs.Csv.Fields
import ArtifactSearch.Proofs.Text.Split

/-!
# ArtifactSearch.Proofs.Csv.Lines

**Lines that come back as they are.** A text that has no line feed, does not end
in a carriage return and is not blank is a `Line`: joined with line feeds, such
texts are found again one by one (`lines_join`). A written row of at least two
cells is one (`isLine_row`): its comma keeps it from being blank, and its last
character is no blank at all.
-/

namespace ArtifactSearch.Csv

/-! ### Lines of any text -/

theorem mem_of_mem_chopReturn {line : Text} {c : Char} (h : c ∈ chopReturn line) : c ∈ line := by
  unfold chopReturn at h
  split at h
  · exact List.dropLast_subset line h
  · exact h

/-- No line holds a line feed. -/
theorem newline_not_mem_of_mem_lines {content line : Text} (h : line ∈ lines content) :
    '\n' ∉ line := by
  intro hc
  rw [lines, List.mem_filter, pieces, List.mem_append, List.mem_map] at h
  rcases h.1 with ⟨part, hpart, rfl⟩ | hlast
  · have hmem : part ∈ Text.split '\n' content := List.dropLast_subset _ hpart
    exact (Text.mem_of_mem_split hmem (mem_of_mem_chopReturn hc)).2 rfl
  · have hmem : line ∈ Text.split '\n' content :=
      List.mem_of_getLast? (Option.mem_toList.mp hlast)
    exact (Text.mem_of_mem_split hmem hc).2 rfl

/-! ### Texts that are lines -/

/-- A text that stands on one line and is kept there whole. -/
structure IsLine (line : Text) : Prop where
  /-- It does not end early. -/
  oneLine : '\n' ∉ line
  /-- Its end is not taken for a part of the line end. -/
  noReturn : line.getLast? ≠ some '\r'
  /-- It is not dropped. -/
  kept : isBlankLine line = false

/-- Joining lines with line feeds loses none, and splits and merges none. -/
theorem lines_join {rows : List Text} (hne : rows ≠ []) (h : ∀ line ∈ rows, IsLine line) :
    lines (Text.join ['\n'] rows) = rows := by
  have hsplit : Text.split '\n' (Text.join ['\n'] rows) = rows :=
    Text.split_join hne fun line hline => (h line hline).oneLine
  have hchop : rows.dropLast.map chopReturn = rows.dropLast :=
    calc rows.dropLast.map chopReturn
        = rows.dropLast.map id := List.map_congr_left fun line hline =>
            if_neg (h line (List.dropLast_subset _ hline)).noReturn
      _ = rows.dropLast := List.map_id _
  have hpieces : pieces (Text.join ['\n'] rows) = rows := by
    rw [pieces, hsplit, hchop, List.getLast?_eq_some_getLast hne, Option.toList_some,
      List.dropLast_concat_getLast hne]
  rw [lines, hpieces, List.filter_eq_self]
  intro line hline
  simp [(h line hline).kept]

/-! ### Written rows are lines -/

theorem mem_escape {value : Text} {c : Char} (h : c ∈ escape value) : c ∈ value ∨ c = '"' := by
  unfold escape at h
  split at h
  · rw [List.mem_cons, List.mem_append, List.mem_flatMap, List.mem_singleton] at h
    rcases h with h | ⟨d, hd, hc⟩ | h
    · exact .inr h
    · by_cases hquote : d = '"'
      · simp [inQuotes, hquote] at hc
        exact .inr hc
      · simp [inQuotes, hquote] at hc
        exact .inl (hc ▸ hd)
    · exact .inr h
  · exact .inl h

theorem mem_escape_of_mem {value : Text} {c : Char} (h : c ∈ value) : c ∈ escape value := by
  unfold escape
  split
  · have hquoted : c ∈ inQuotes c := by
      unfold inQuotes
      split <;> simp_all
    have hflat : c ∈ value.flatMap inQuotes := List.mem_flatMap.mpr ⟨c, h, hquoted⟩
    exact List.mem_cons_of_mem _ (List.mem_append_left _ hflat)
  · exact h

theorem newline_not_mem_row {values : List Text} (h : ∀ v ∈ values, '\n' ∉ v) :
    '\n' ∉ row values := by
  have hescape : ∀ v ∈ values, '\n' ∉ escape v := fun v hv hc =>
    (mem_escape hc).elim (h v hv) (by decide)
  induction values with
  | nil => simp [row]
  | cons value rest ih =>
      have hvalue : '\n' ∉ escape value := hescape value (by simp)
      cases rest with
      | nil => simpa [row] using hvalue
      | cons next rest =>
          have hrest := ih (fun v hv => h v (by simp [hv])) (fun v hv => hescape v (by simp [hv]))
          simp only [row, List.map_cons, Text.join_cons_cons, List.mem_append,
            List.mem_singleton, not_or] at hrest ⊢
          exact ⟨⟨hvalue, by decide⟩, hrest⟩

/-- A written value ends in a quote or as the value does. -/
theorem getLast?_escape {value : Text} (h : Text.Trimmed Blank.isEdge value) :
    (escape value).getLast? ≠ some '\r' := by
  intro hc
  unfold escape at hc
  split at hc
  · rw [← List.cons_append, List.getLast?_concat] at hc
    exact absurd hc (by decide)
  · exact absurd (h.last '\r' hc) (by decide)

theorem getLast?_row {values : List Text} (h : ∀ v ∈ values, Text.Trimmed Blank.isEdge v) :
    (row values).getLast? ≠ some '\r' := by
  induction values with
  | nil => simp [row]
  | cons value rest ih =>
      cases rest with
      | nil => simpa [row] using getLast?_escape (h value (by simp))
      | cons next rest =>
          have hrest := ih fun v hv => h v (by simp [hv])
          have hrow : row (value :: next :: rest) = escape value ++ [','] ++ row (next :: rest) := by
            simp [row, Text.join_cons_cons]
          -- The last value may be empty; then the row ends in a comma.
          rw [hrow, List.getLast?_append]
          cases hlast : (row (next :: rest)).getLast? with
          | none => simp
          | some c =>
              rw [hlast] at hrest
              simpa using hrest

theorem isBlankLine_eq_false {line : Text} {c : Char} (hc : c ∈ line)
    (hedge : Blank.isEdge c = false) : isBlankLine line = false := by
  rw [isBlankLine, List.all_eq_false]
  exact ⟨c, hc, by simp [hedge]⟩

/-- A row of cells is a line as soon as it holds a character that is not blank. -/
theorem isLine_row {values : List Text} (h : ∀ v ∈ values, IsCell v) {c : Char}
    (hc : c ∈ row values) (hedge : Blank.isEdge c = false) : IsLine (row values) where
  oneLine := newline_not_mem_row fun v hv => (h v hv).oneLine
  noReturn := getLast?_row fun v hv => (h v hv).trimmed
  kept := isBlankLine_eq_false hc hedge

/-- A row of two or more cells is a line, even if all of them are empty. -/
theorem isLine_row_cons_cons {value next : Text} {rest : List Text}
    (h : ∀ v ∈ value :: next :: rest, IsCell v) : IsLine (row (value :: next :: rest)) :=
  isLine_row h (c := ',') (by simp [row, Text.join_cons_cons]) (by decide)

/-- A row of one cell is a line if the cell is not empty. -/
theorem isLine_row_singleton {value : Text} (h : IsCell value) (hne : value ≠ []) :
    IsLine (row [value]) := by
  obtain ⟨c, rest, rfl⟩ := List.exists_cons_of_ne_nil hne
  have hc : c ∈ row [c :: rest] := by
    rw [row, List.map_singleton, Text.join_singleton]
    exact mem_escape_of_mem List.mem_cons_self
  exact isLine_row (List.forall_mem_singleton.mpr h) hc (h.trimmed.first c rfl)

end ArtifactSearch.Csv
