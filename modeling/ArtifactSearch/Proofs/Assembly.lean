import ArtifactSearch.Proofs.Tidy

/-!
# ArtifactSearch.Proofs.Assembly

**Tables line by line.** What a line gives to the table of a text depends on that line and on
the header and on nothing else, however ragged or damaged the lines are.

* A record gives a column the token at the last place of its name in the header, or nothing
  where the line has ended before (`Record.get?_ofFields`). Earlier places of the name do not
  count for the value, although the first of them decides where the column stands.
* Lines behind the header only add records (`Table.ofLines_cons_append`). A text that goes on
  behind a line feed has the tidy lines of both parts, whatever the first part ends in, so this
  is also what becomes of its table (`Table.parse_of_head?`).
-/

namespace ArtifactSearch

/-! ### Last places -/

/-- The last place at which a name stands among others. -/
def LastAt (names : List Text) (name : Text) (place : Nat) : Prop :=
  names[place]? = some name ∧ name ∉ names.drop (place + 1)

instance (names : List Text) (name : Text) (place : Nat) : Decidable (LastAt names name place) :=
  inferInstanceAs (Decidable (_ ∧ _))

theorem exists_lastAt {names : List Text} {name : Text} (h : name ∈ names) :
    ∃ place, LastAt names name place := by
  induction names with
  | nil => cases h
  | cons first rest ih =>
      by_cases hrest : name ∈ rest
      · obtain ⟨place, hplace⟩ := ih hrest
        exact ⟨place + 1, hplace⟩
      · have hfirst : name = first := (List.mem_cons.mp h).resolve_right hrest
        exact ⟨0, congrArg some hfirst.symm, hrest⟩

/-- There is no place of the name behind its last one. -/
theorem LastAt.le {names : List Text} {name : Text} {place other : Nat}
    (h : LastAt names name place) (hother : names[other]? = some name) : other ≤ place := by
  by_contra hlater
  refine h.2 (List.mem_iff_getElem?.mpr ⟨other - (place + 1), ?_⟩)
  rw [List.getElem?_drop, Nat.add_sub_cancel' (Nat.lt_of_not_le hlater), hother]

theorem LastAt.unique {names : List Text} {name : Text} {place other : Nat}
    (h : LastAt names name place) (hother : LastAt names name other) : place = other :=
  Nat.le_antisymm (hother.le h.1) (h.le hother.1)

theorem LastAt.exists_split {names : List Text} {name : Text} {place : Nat}
    (h : LastAt names name place) :
    ∃ before after, names = before ++ name :: after ∧ before.length = place ∧ name ∉ after := by
  obtain ⟨hplace, hlast⟩ := h
  obtain ⟨hlt, hname⟩ := List.getElem?_eq_some_iff.mp hplace
  refine ⟨names.take place, names.drop (place + 1), ?_, ?_, hlast⟩
  · rw [← hname, ← List.drop_eq_getElem_cons hlt, List.take_append_drop]
  · exact List.length_take_of_le (Nat.le_of_lt hlt)

/-! ### The record of a line -/

namespace Record

/-- A record gives a column the token at the last place of its name. -/
theorem get?_ofFields {header : List Text} {column : Text} {place : Nat}
    (h : LastAt header column place) (values : List Text) :
    (ofFields header values).get? column = some (values[place]?.getD []) := by
  obtain ⟨before, after, rfl, rfl, hafter⟩ := h.exists_split
  rw [ofFields, pair_append, pair_cons,
    Entries.get?_ofList_append_cons (by rwa [map_fst_pair]), List.getElem?_drop, Nat.add_zero]

/-- Tokens behind the last name of the header do not count. -/
theorem ofFields_congr {header values other : List Text}
    (h : values.take header.length = other.take header.length) :
    ofFields header values = ofFields header other := by
  rw [ofFields, ← pair_take, h, pair_take, ofFields]

end Record

/-! ### The lines of a longer text -/

namespace Csv

/-- A text of one line has this line, unless it is blank. -/
theorem tidyLines_of_newline_not_mem {line : Text} (h : '\n' ∉ line) :
    tidyLines line = if isBlankLine line then [] else [Text.trim Blank.isEdge line] := by
  rw [tidyLines, Text.split_of_not_mem h, List.map_singleton]
  split
  · rename_i hblank
    rw [isBlankLine, List.all_eq_true] at hblank
    rw [Text.trim_eq_nil_iff.mpr hblank]
    rfl
  · rename_i hkept
    rw [isBlankLine, List.all_eq_true] at hkept
    exact List.filter_cons_of_pos (decide_eq_true fun hnil => hkept (Text.trim_eq_nil_iff.mp hnil))

/-- The first line that counts is its own only line. -/
theorem tidyLines_of_head? {content first : Text} (h : (lines content).head? = some first) :
    ∃ rest, tidyLines content = Text.trim Blank.isEdge first :: rest ∧
      tidyLines first = [Text.trim Blank.isEdge first] := by
  obtain ⟨rest, hlines⟩ := List.head?_eq_some_iff.mp h
  have hmem : first ∈ lines content := List.mem_of_head? h
  have hkept : isBlankLine first = false := by simpa using (List.mem_filter.mp hmem).2
  refine ⟨rest.map (Text.trim Blank.isEdge), ?_, ?_⟩
  · rw [← map_trim_lines, hlines, List.map_cons]
  · rw [tidyLines_of_newline_not_mem (newline_not_mem_of_mem_lines hmem), hkept]
    rfl

end Csv

namespace Table

/-- Lines behind the header only add records. -/
theorem ofLines_cons_append (first : Text) (rest more : List Text) :
    ofLines (first :: (rest ++ more))
      = ⟨(ofLines (first :: rest)).columns,
          (ofLines (first :: rest)).records ++ (ofLines (first :: more)).records⟩ := by
  simp only [ofLines, List.map_append]

/-- A text that goes on behind a line feed has the header of its start and, below it, the lines
of both parts. -/
theorem parse_of_head? {content first : Text} (h : (Csv.lines content).head? = some first) :
    ∃ header rest, parse content = ofLines (header :: rest) ∧
      (∀ more, parse (content ++ '\n' :: more) = ofLines (header :: (rest ++ Csv.tidyLines more))) ∧
      ∀ more, parse (first ++ '\n' :: more) = ofLines (header :: Csv.tidyLines more) := by
  obtain ⟨rest, hcontent, hfirst⟩ := Csv.tidyLines_of_head? h
  refine ⟨Text.trim Blank.isEdge first, rest, ?_, fun more => ?_, fun more => ?_⟩
  · rw [parse_eq_ofLines_tidyLines, hcontent]
  · rw [parse_eq_ofLines_tidyLines, Csv.tidyLines_append_cons, hcontent, List.cons_append]
  · rw [parse_eq_ofLines_tidyLines, Csv.tidyLines_append_cons, hfirst, List.singleton_append]

/-- **Damage stays in its line.** A text that goes on behind a line feed keeps its columns and
its records, whatever follows and whatever it ended in. The new records are those that the rest
has under the same header. So any line may be put between two parts of a text, with quotes that
are never closed or with more or fewer fields than there are columns: it brings its own record,
if it holds something, and the records of the lines before and behind it are the same. -/
theorem parse_append {content first : Text} (h : (Csv.lines content).head? = some first) :
    (∀ more, parse (content ++ '\n' :: more)
      = ⟨(parse content).columns,
          (parse content).records ++ (parse (first ++ '\n' :: more)).records⟩) ∧
    ∀ line more, '\n' ∉ line →
      let own := (parse (first ++ '\n' :: line)).records
      own.length = (if Csv.isBlankLine line then 0 else 1) ∧
        parse (content ++ '\n' :: (line ++ '\n' :: more))
          = ⟨(parse content).columns,
              (parse content).records ++ (own ++ (parse (first ++ '\n' :: more)).records)⟩ := by
  obtain ⟨header, rest, hcontent, hlonger, hfirst⟩ := parse_of_head? h
  refine ⟨fun more => ?_, fun line more hline => ⟨?_, ?_⟩⟩
  · rw [hlonger, hfirst, hcontent, ofLines_cons_append]
  · rw [hfirst, Csv.tidyLines_of_newline_not_mem hline]
    split <;> rfl
  · rw [hlonger, hfirst, hfirst, hcontent, Csv.tidyLines_append_cons,
      ofLines_cons_append header rest, ofLines_cons_append header (Csv.tidyLines line)]

/-- The quotes of one line are never closed, the next line has a field too many, and the text
before them ends in a carriage return. -/
theorem parse_append_unclosed :
    let content := "\n x,y\n1,2\r".toList
    let first := " x,y".toList
    let line := "3,\"4".toList
    let more := "5,6,7".toList
    let record (x y : String) : Record := [("x".toList, x.toList), ("y".toList, y.toList)]
    (Csv.lines content).head? = some first ∧ '\n' ∉ line ∧
      parse (content ++ '\n' :: (line ++ '\n' :: more))
        = ⟨["x".toList, "y".toList], [record "1" "2", record "3" "4", record "5" "6"]⟩ := by
  intro content first line more record
  have h : (Csv.lines content).head? = some first := by decide +kernel
  have hline : '\n' ∉ line := by decide
  have hparts := ((parse_append h).2 line more hline).2
  refine ⟨h, hline, hparts.trans ?_⟩
  decide +kernel

/-- **Ragged lines and repeated names.** Under a header line, a table has the names of the
header for its columns, each once and in order of first occurrence, and one record for every
line behind it, in order. The columns, in their order, are the keys of each record. A column
has the token that stands where its name stands last in the header, whatever stands at its
earlier places, and nothing if the line has no token there. Tokens behind the last name of the
header do not count. -/
theorem parse_ragged {content first : Text} {rest : List Text}
    (h : Csv.lines content = first :: rest) :
    let header := Csv.fields first
    let table := parse content
    table.columns.Pairwise (fun a b => header.idxOf a < header.idxOf b) ∧
    (∀ name, name ∈ table.columns ↔ name ∈ header) ∧
    table.records.length = rest.length ∧
    ∀ (i : Nat) (line : Text), rest[i]? = some line →
      ∃ record, table.records[i]? = some record ∧
      record.keys = table.columns ∧
      (∀ column ∈ table.columns, ∃ place, LastAt header column place ∧
        record.get? column = some ((Csv.fields line)[place]?.getD [])) ∧
      ∀ tokens, tokens.take header.length = (Csv.fields line).take header.length →
        Record.ofFields header tokens = record := by
  intro header table
  have htable : table = ofLines (first :: rest) := congrArg ofLines h
  have hcolumns : table.columns = header.eraseDups := by rw [htable, ofLines]
  have hrecords : table.records
      = rest.map fun line => Record.ofFields header (Csv.fields line) := by
    rw [htable, ofLines]
  rw [hcolumns, hrecords]
  refine ⟨?_, fun name => List.mem_eraseDups, List.length_map _, fun i line hi => ?_⟩
  · simpa using Entries.pairwise_idxOf_eraseDups (fun _ => true) header
  · refine ⟨Record.ofFields header (Csv.fields line), ?_, Record.keys_ofFields _ _, ?_, ?_⟩
    · rw [List.getElem?_map, hi, Option.map_some]
    · intro column hcolumn
      obtain ⟨place, hplace⟩ := exists_lastAt (List.mem_eraseDups.mp hcolumn)
      exact ⟨place, hplace, Record.get?_ofFields hplace _⟩
    · exact fun tokens htokens => Record.ofFields_congr htokens

/-- The line is too short for the later place of a name, so that its token at the earlier one is
lost. -/
theorem parse_ragged_short :
    let content := "a,b,a,c\n\n3,4,5,6,7,8\n1,2".toList
    let rest := ["3,4,5,6,7,8".toList, "1,2".toList]
    Csv.lines content = "a,b,a,c".toList :: rest ∧ rest[1]? = some "1,2".toList ∧
      ∃ record, (parse content).records[1]? = some record ∧
        record.keys = ["a".toList, "b".toList, "c".toList] ∧
        record.get? "a".toList = some [] ∧ record.get? "b".toList = some "2".toList := by
  intro content rest
  have h : Csv.lines content = "a,b,a,c".toList :: rest := by decide +kernel
  have hline : rest[1]? = some "1,2".toList := rfl
  have hcolumns : (parse content).columns = ["a".toList, "b".toList, "c".toList] := by
    decide +kernel
  obtain ⟨-, -, -, hrecords⟩ := parse_ragged h
  obtain ⟨record, hrecord, hkeys, hvalues, -⟩ := hrecords 1 _ hline
  rw [hcolumns] at hkeys hvalues
  obtain ⟨place, hplace, ha⟩ := hvalues "a".toList (by decide)
  obtain ⟨other, hother, hb⟩ := hvalues "b".toList (by decide)
  have hlast : place = 2 := hplace.unique (by decide +kernel)
  have hsecond : other = 1 := hother.unique (by decide +kernel)
  rw [hlast] at ha
  rw [hsecond] at hb
  exact ⟨h, hline, record, hrecord, hkeys, ha.trans (by decide +kernel),
    hb.trans (by decide +kernel)⟩

end Table

end ArtifactSearch
