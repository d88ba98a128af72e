import ArtifactSearch.Table
import ArtifactSearch.Proofs.Csv.Lines
import ArtifactSearch.Proofs.Entries

/-!
# ArtifactSearch.Proofs.Table

**What every parsed table is like**, however damaged its text: `WellFormed`
(`wellFormed_parse`). Everything built on tables, from the store to the exports,
rests on this and not on the parser.
-/

namespace ArtifactSearch

namespace Record

theorem map_fst_pair (header values : List Text) : (pair header values).map Prod.fst = header := by
  induction header generalizing values with
  | nil => rfl
  | cons name header ih =>
      cases values with
      | nil => rw [pair, List.map_cons, ih]
      | cons value values => rw [pair, List.map_cons, ih]

/-- Only values of the line and empty ones are paired with names. -/
theorem snd_mem_of_mem_pair {header values : List Text} {entry : Text × Text}
    (h : entry ∈ pair header values) : entry.2 ∈ values ∨ entry.2 = [] := by
  induction header generalizing values with
  | nil => cases h
  | cons name header ih =>
      cases values with
      | nil =>
          rcases List.mem_cons.mp h with rfl | h
          · exact .inr rfl
          · exact ih h
      | cons value values =>
          rcases List.mem_cons.mp h with rfl | h
          · exact .inl List.mem_cons_self
          · exact (ih h).imp_left (List.mem_cons_of_mem _)

theorem pair_cons (name : Text) (header values : List Text) :
    pair (name :: header) values = (name, values[0]?.getD []) :: pair header (values.drop 1) := by
  cases values with
  | nil => rfl
  | cons value values => rfl

/-- Later names are paired with later values. -/
theorem pair_append (before after values : List Text) :
    pair (before ++ after) values
      = pair before values ++ pair after (values.drop before.length) := by
  induction before generalizing values with
  | nil => rfl
  | cons name before ih =>
      rw [List.cons_append, pair_cons, ih, pair_cons, List.drop_drop, List.length_cons,
        List.cons_append, Nat.add_comm 1]

/-- Values behind the last name are paired with none. -/
theorem pair_take (header values : List Text) :
    pair header (values.take header.length) = pair header values := by
  induction header generalizing values with
  | nil => rfl
  | cons name header ih =>
      cases values with
      | nil => rfl
      | cons value values => rw [List.length_cons, List.take_succ_cons, pair, ih, pair]

theorem pair_map (header : List Text) (f : Text → Text) :
    pair header (header.map f) = header.map fun name => (name, f name) := by
  induction header with
  | nil => rfl
  | cons name header ih => rw [List.map_cons, pair, ih, List.map_cons]

/-- A record has the distinct names of the header as its keys. -/
theorem keys_ofFields (header values : List Text) :
    (ofFields header values).keys = header.eraseDups := by
  rw [ofFields, Entries.keys_ofList, map_fst_pair]

theorem mem_of_mem_values_ofFields {header values : List Text} {value : Text}
    (h : value ∈ (ofFields header values).values) : value ∈ values ∨ value = [] := by
  obtain ⟨entry, hentry, rfl⟩ := List.mem_map.mp h
  exact snd_mem_of_mem_pair (Entries.mem_of_mem_ofList hentry)

/-- Under distinct names a line with one value for each name is read as it
stands. -/
theorem ofFields_map {header : List Text} (h : header.Nodup) (f : Text → Text) :
    ofFields header (header.map f) = header.map fun name => (name, f name) := by
  rw [ofFields, Entries.ofList_eq_self (by rwa [map_fst_pair]), pair_map]

end Record

namespace Table

/-- The shape of a table read from delimited text. -/
structure WellFormed (table : Table) : Prop where
  /-- No column occurs twice. -/
  nodup : table.columns.Nodup
  /-- Every record has exactly the columns as its keys, in their order. -/
  keys : ∀ record ∈ table.records, record.keys = table.columns
  /-- Column names are cells. -/
  columnCells : ∀ column ∈ table.columns, Csv.IsCell column
  /-- Values are cells. -/
  valueCells : ∀ record ∈ table.records, ∀ value ∈ record.values, Csv.IsCell value
  /-- Without columns there are no records. -/
  bare : table.columns = [] → table.records = []

theorem wellFormed_empty : empty.WellFormed where
  nodup := List.nodup_nil
  keys := by simp [empty]
  columnCells := by simp [empty]
  valueCells := by simp [empty]
  bare := fun _ => rfl

theorem wellFormed_ofLines {lines : List Text} (h : ∀ line ∈ lines, '\n' ∉ line) :
    (ofLines lines).WellFormed := by
  cases lines with
  | nil => exact wellFormed_empty
  | cons first rest =>
      have hfirst : '\n' ∉ first := h first (by simp)
      refine ⟨Entries.nodup_eraseDups _, ?_, ?_, ?_, ?_⟩
      · intro record hrecord
        obtain ⟨line, -, rfl⟩ := List.mem_map.mp hrecord
        exact Record.keys_ofFields _ _
      · intro column hcolumn
        exact Csv.isCell_of_mem_fields hfirst (List.mem_eraseDups.mp hcolumn)
      · intro record hrecord value hvalue
        obtain ⟨line, hline, rfl⟩ := List.mem_map.mp hrecord
        rcases Record.mem_of_mem_values_ofFields hvalue with hfield | rfl
        · exact Csv.isCell_of_mem_fields (h line (by simp [hline])) hfield
        · exact Csv.isCell_nil
      · intro hbare
        -- A line has at least one field, so there is at least one column.
        obtain ⟨name, names, hfields⟩ := List.exists_cons_of_ne_nil (Csv.fields_ne_nil first)
        simp [ofLines, hfields, List.eraseDups_cons] at hbare

/-- Whatever the text, its table is well-formed. -/
theorem wellFormed_parse (content : Text) : (parse content).WellFormed :=
  wellFormed_ofLines fun _ h => Csv.newline_not_mem_of_mem_lines h

/-! ### Written tables -/

/-- A written table: the header line, then one line for each row, which gives
each column its cell. -/
def written (header : List Text) (rows : List (Text → Text)) : Text :=
  Text.join ['\n'] (Csv.row header :: rows.map fun cells => Csv.row (header.map cells))

/-- Reading a written table finds its columns and rows again, if the columns are
distinct cells, the rows are cells under them, and every line is kept. -/
theorem parse_written {header : List Text} {rows : List (Text → Text)} (hne : header ≠ [])
    (hnodup : header.Nodup) (hheader : ∀ name ∈ header, Csv.IsCell name)
    (hrows : ∀ cells ∈ rows, ∀ name ∈ header, Csv.IsCell (cells name))
    (hfirst : Csv.IsLine (Csv.row header))
    (hrest : ∀ cells ∈ rows, Csv.IsLine (Csv.row (header.map cells))) :
    parse (written header rows)
      = ⟨header, rows.map fun cells => header.map fun name => (name, cells name)⟩ := by
  have hlines : Csv.lines (written header rows)
      = Csv.row header :: rows.map fun cells => Csv.row (header.map cells) := by
    refine Csv.lines_join (by simp) (List.forall_mem_cons.mpr ⟨hfirst, ?_⟩)
    exact List.forall_mem_map.mpr hrest
  have hnames : Csv.fields (Csv.row header) = header := by
    rw [Csv.fields_row hne, Csv.map_trim_eq_self fun name hname => (hheader name hname).trimmed]
  have hcells : ∀ cells ∈ rows, Csv.fields (Csv.row (header.map cells)) = header.map cells := by
    intro cells hmem
    have htrimmed : ∀ v ∈ header.map cells, Text.Trimmed Blank.isEdge v :=
      List.forall_mem_map.mpr fun name hname => (hrows cells hmem name hname).trimmed
    rw [Csv.fields_row (by simpa using hne), Csv.map_trim_eq_self htrimmed]
  rw [parse, hlines, ofLines, hnames, Entries.eraseDups_eq_self hnodup, List.map_map]
  congr 1
  refine List.map_congr_left fun cells hmem => ?_
  rw [Function.comp_apply, hcells cells hmem, Record.ofFields_map hnodup]

end Table

end ArtifactSearch
