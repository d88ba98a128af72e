import ArtifactSearch.Proofs.Csv.Parity
import ArtifactSearch.Proofs.Table

/-!
# ArtifactSearch.Proofs.Tidy

**Tables do not depend on the edges of lines.** A text may be tidied before it is parsed: of the
pieces between its line feeds, the edge blanks and then the empty ones go (`tidyLines`). This
takes away what the parser would drop later, some of it as part of a line end, some as a blank
line, and the rest when it trims fields.

The last of these is not evident. Blanks at the end of a line may be read in any state of the
scanner, and only because a field is trimmed when its quotes are gone is it the same in all of
them (`Csv.Scan.finish_run_blanks`). Blanks at its start stand in the first field
(`Csv.fields_blanks_append`).
-/

namespace ArtifactSearch

namespace Csv

/-! ### Blanks around a line -/

theorem isEdge_ne {c : Char} (h : Blank.isEdge c = true) : c ≠ '"' ∧ c ≠ ',' := by
  constructor
  · rintro rfl
    exact absurd h (by decide)
  · rintro rfl
    exact absurd h (by decide)

/-- A blank goes to the field under way, whatever the state. -/
theorem Scan.current_step {c : Char} (h : Blank.isEdge c = true) (s : Scan) :
    (s.step c).current = c :: s.current ∧ (s.step c).done = s.done := by
  obtain ⟨hquote, hcomma⟩ := isEdge_ne h
  cases hmode : s.mode <;> simp [Scan.step, Scan.stepBare, hmode, hquote, hcomma]

/-- Blanks at the end of a line go with its last field. -/
theorem Scan.finish_run_blanks {blanks : Text} (h : ∀ c ∈ blanks, Blank.isEdge c = true)
    (s : Scan) : (s.run blanks).finish = s.finish := by
  induction blanks generalizing s with
  | nil => rfl
  | cons c rest ih =>
      obtain ⟨hc, hrest⟩ := List.forall_mem_cons.mp h
      obtain ⟨hcurrent, hdone⟩ := Scan.current_step hc s
      have hfield : (s.step c).field = s.field := by
        rw [Scan.field, hcurrent, List.reverse_cons, Scan.field]
        exact Text.trim_append_blank (List.forall_mem_singleton.mpr hc) _
      rw [Scan.run_cons, ih hrest, Scan.finish, hfield, hdone, Scan.finish]

theorem fields_append_blanks {blanks : Text} (h : ∀ c ∈ blanks, Blank.isEdge c = true)
    (line : Text) : fields (line ++ blanks) = fields line := by
  rw [fields, Scan.run_append, Scan.finish_run_blanks h, fields]

/-- Blanks at the start of a line go with its first field. -/
theorem fields_blanks_append {blanks : Text} (h : ∀ c ∈ blanks, Blank.isEdge c = true)
    (line : Text) : fields (blanks ++ line) = fields line := by
  obtain ⟨first, others, hsegments⟩ :=
    List.exists_cons_of_ne_nil (List.splitOnP_ne_nil divides (marked 0 line))
  have hbare : Scan.start.run blanks = ⟨modeAt 0, blanks.reverse ++ [], []⟩ :=
    run_bare (fun c hc => isEdge_ne (h c hc)) [] []
  have hrun := fun current => finish_run_segments line 0 current [] first others hsegments
  have hstart : fields line = (Scan.run ⟨modeAt 0, [], []⟩ line).finish := rfl
  rw [hstart, hrun, fields, Scan.run_append, hbare, hrun, List.append_nil, List.reverse_reverse,
    Text.trim_blank_append h]
  rfl

theorem fields_trim (line : Text) : fields (Text.trim Blank.isEdge line) = fields line := by
  obtain ⟨before, after, hline, hbefore, hafter⟩ := Text.exists_trim_eq Blank.isEdge line
  conv => rhs; rw [hline]
  rw [fields_blanks_append hbefore, fields_append_blanks hafter]

/-! ### Tidy lines -/

/-- The lines of a text as far as they count: what stands between line feeds, without edge
blanks, unless nothing is left of it. -/
def tidyLines (content : Text) : List Text :=
  ((Text.split '\n' content).map (Text.trim Blank.isEdge)).filter fun line => line ≠ []

/-- The text of the lines that count, with a line feed between each two. -/
def tidy (content : Text) : Text := Text.join ['\n'] (tidyLines content)

theorem trim_chopReturn (line : Text) :
    Text.trim Blank.isEdge (chopReturn line) = Text.trim Blank.isEdge line := by
  unfold chopReturn
  split
  · rename_i hreturn
    obtain ⟨rest, rfl⟩ := List.getLast?_eq_some_iff.mp hreturn
    rw [List.dropLast_concat]
    exact (Text.trim_append_blank (List.forall_mem_singleton.mpr (by decide)) rest).symm
  · rfl

theorem map_trim_pieces (content : Text) :
    (pieces content).map (Text.trim Blank.isEdge)
      = (Text.split '\n' content).map (Text.trim Blank.isEdge) := by
  have hne := Text.split_ne_nil '\n' content
  have hchop : ((Text.split '\n' content).dropLast.map chopReturn).map (Text.trim Blank.isEdge)
      = (Text.split '\n' content).dropLast.map (Text.trim Blank.isEdge) := by
    rw [List.map_map]
    exact List.map_congr_left fun line _ => trim_chopReturn line
  rw [pieces, List.map_append, hchop, ← List.map_append, List.getLast?_eq_some_getLast hne,
    Option.toList_some, List.dropLast_concat_getLast hne]

/-- Trimming the lines that hold something gives the tidy ones. -/
theorem map_trim_lines (content : Text) :
    (lines content).map (Text.trim Blank.isEdge) = tidyLines content := by
  have hblank : ∀ line, (!isBlankLine line) = decide (Text.trim Blank.isEdge line ≠ []) := by
    intro line
    rw [Bool.eq_iff_iff, decide_eq_true_iff, ne_eq, Text.trim_eq_nil_iff, isBlankLine]
    simp
  rw [tidyLines, ← map_trim_pieces, List.filter_map, lines]
  congr 1
  exact List.filter_congr fun line _ => hblank line

/-- A tidy line is kept whole. -/
theorem isLine_of_mem_tidyLines {content line : Text} (h : line ∈ tidyLines content) :
    IsLine line := by
  obtain ⟨hmem, hne⟩ := List.mem_filter.mp h
  obtain ⟨piece, hpiece, rfl⟩ := List.mem_map.mp hmem
  have htrimmed : Text.Trimmed Blank.isEdge (Text.trim Blank.isEdge piece) :=
    Text.trimmed_trim piece
  refine ⟨fun hc => ?_, fun hc => ?_, ?_⟩
  · exact (Text.mem_of_mem_split hpiece (Text.mem_of_mem_trim hc)).2 rfl
  · exact absurd (htrimmed.last '\r' hc) (by decide)
  · obtain ⟨c, rest, hcons⟩ := List.exists_cons_of_ne_nil (of_decide_eq_true hne)
    exact isBlankLine_eq_false (hcons ▸ List.mem_cons_self) (htrimmed.first c (by rw [hcons]; rfl))

theorem lines_tidy (content : Text) : lines (tidy content) = tidyLines content := by
  by_cases hnil : tidyLines content = []
  · rw [tidy, hnil]
    rfl
  · exact lines_join hnil fun line hline => isLine_of_mem_tidyLines hline

/-! ### Changes that leave the tidy lines alone -/

theorem tidyLines_append_cons (a b : Text) :
    tidyLines (a ++ '\n' :: b) = tidyLines a ++ tidyLines b := by
  rw [tidyLines, Text.split_append_cons, List.map_append, List.filter_append, tidyLines, tidyLines]

theorem tidyLines_newline_cons (s : Text) : tidyLines ('\n' :: s) = tidyLines s :=
  tidyLines_append_cons [] s

section Blanks

variable {blanks : Text} (h : ∀ c ∈ blanks, Blank.isEdge c = true)

include h

/-- Blanks at the start of a text do not count, with or without line feeds among them. -/
theorem tidyLines_blanks_append (s : Text) : tidyLines (blanks ++ s) = tidyLines s := by
  induction blanks with
  | nil => rfl
  | cons c rest ih =>
      obtain ⟨hc, hrest⟩ := List.forall_mem_cons.mp h
      rw [← ih hrest, List.cons_append]
      by_cases hfeed : c = '\n'
      · rw [hfeed, tidyLines_newline_cons]
      · obtain ⟨piece, others, hsplit, hlonger⟩ := Text.split_cons_of_ne hfeed (rest ++ s)
        have htrim : Text.trim Blank.isEdge (c :: piece) = Text.trim Blank.isEdge piece :=
          Text.trim_blank_append (List.forall_mem_singleton.mpr hc) piece
        rw [tidyLines, hlonger, List.map_cons, htrim, tidyLines, hsplit, List.map_cons]

/-- Nor do blanks at its end. -/
theorem tidyLines_append_blanks (s : Text) : tidyLines (s ++ blanks) = tidyLines s := by
  induction blanks generalizing s with
  | nil => rw [List.append_nil]
  | cons c rest ih =>
      obtain ⟨hc, hrest⟩ := List.forall_mem_cons.mp h
      rw [List.append_cons, ih hrest]
      by_cases hfeed : c = '\n'
      · rw [hfeed, tidyLines_append_cons]
        exact List.append_nil _
      · obtain ⟨pieces, last, hsplit, hlonger⟩ := Text.exists_split_concat hfeed s
        have htrim : Text.trim Blank.isEdge (last ++ [c]) = Text.trim Blank.isEdge last :=
          Text.trim_append_blank (List.forall_mem_singleton.mpr hc) last
        rw [tidyLines, hlonger, List.map_append, List.map_singleton, htrim, tidyLines, hsplit,
          List.map_append, List.map_singleton]

end Blanks

/-- Where a line or the text starts or ends. -/
def AtEdge (before after : Text) : Prop :=
  before = [] ∨ before.getLast? = some '\n' ∨ after = [] ∨ after.head? = some '\n'

/-- Blanks that are put in where a line starts or ends do not count. -/
theorem tidyLines_insert {before blanks after : Text} (h : AtEdge before after)
    (hblanks : ∀ c ∈ blanks, Blank.isEdge c = true) :
    tidyLines (before ++ (blanks ++ after)) = tidyLines (before ++ after) := by
  rcases h with rfl | hstart | rfl | hend
  · exact tidyLines_blanks_append hblanks after
  · obtain ⟨line, rfl⟩ := List.getLast?_eq_some_iff.mp hstart
    rw [← List.append_cons, ← List.append_cons, tidyLines_append_cons, tidyLines_append_cons,
      tidyLines_blanks_append hblanks]
  · rw [List.append_nil, List.append_nil, tidyLines_append_blanks hblanks]
  · obtain ⟨rest, rfl⟩ := List.head?_eq_some_iff.mp hend
    rw [← List.append_assoc, tidyLines_append_cons, tidyLines_append_cons,
      tidyLines_append_blanks hblanks]

/-- The text with `k` carriage returns before every line feed. -/
def returned (k : Nat) (content : Text) : Text :=
  content.flatMap fun c => if c = '\n' then List.replicate k '\r' ++ ['\n'] else [c]

theorem tidyLines_append_returned (k : Nat) (before content : Text) :
    tidyLines (before ++ returned k content) = tidyLines (before ++ content) := by
  induction content generalizing before with
  | nil => rfl
  | cons c rest ih =>
      by_cases hfeed : c = '\n'
      · have hreturns : ∀ d ∈ List.replicate k '\r', Blank.isEdge d = true := fun d hd => by
          rw [List.eq_of_mem_replicate hd]
          decide
        have hline : returned k (c :: rest) = List.replicate k '\r' ++ '\n' :: returned k rest := by
          simp [returned, hfeed]
        have hrest : tidyLines (returned k rest) = tidyLines rest := ih []
        rw [hline, hfeed, ← List.append_assoc, tidyLines_append_cons, tidyLines_append_cons,
          tidyLines_append_blanks hreturns, hrest]
      · have hline : before ++ returned k (c :: rest) = before ++ [c] ++ returned k rest := by
          simp [returned, hfeed]
        rw [hline, ih, ← List.append_cons]

end Csv

namespace Table

theorem ofLines_map_trim (lines : List Text) :
    ofLines (lines.map (Text.trim Blank.isEdge)) = ofLines lines := by
  cases lines with
  | nil => rfl
  | cons first rest =>
      simp only [List.map_cons, ofLines, Csv.fields_trim, List.map_map, Function.comp_def]

/-- The table of a text depends on its tidy lines alone. -/
theorem parse_eq_ofLines_tidyLines (content : Text) :
    parse content = ofLines (Csv.tidyLines content) := by
  rw [parse, ← ofLines_map_trim, Csv.map_trim_lines]

/-- **Tables do not depend on the edges of lines.** A text has the table of its tidy form, where
the edge blanks of every line and the empty lines are gone. So it is all the same whether lines
end in a line feed or in carriage returns and a line feed, and whether or not blanks, among them
empty lines and byte-order marks, are put in where the text or a line of it starts or ends. -/
theorem parse_tidy (content : Text) :
    parse content = parse (Csv.tidy content) ∧
    (∀ k, parse (Csv.returned k content) = parse content) ∧
    ∀ before blanks after, content = before ++ after → Csv.AtEdge before after →
      (∀ c ∈ blanks, Blank.isEdge c = true) →
        parse (before ++ (blanks ++ after)) = parse content := by
  simp only [parse_eq_ofLines_tidyLines]
  refine ⟨?_, fun k => ?_, ?_⟩
  · rw [← parse_eq_ofLines_tidyLines (Csv.tidy content), parse, Csv.lines_tidy]
  · have hreturned := Csv.tidyLines_append_returned k [] content
    rw [List.nil_append, List.nil_append] at hreturned
    rw [hreturned]
  · rintro before blanks after rfl hedge hblanks
    rw [Csv.tidyLines_insert hedge hblanks]

/-- Blanks that a line ends in stand inside the quotes, if these are never closed. -/
theorem parse_tidy_unclosed :
    let content := "Name,Note\nann,\"left open".toList
    let blanks := " \t\r\n\uFEFF".toList
    Csv.AtEdge content [] ∧ (∀ c ∈ blanks, Blank.isEdge c = true) ∧
      parse (content ++ (blanks ++ [])) = parse content ∧
      parse content = ⟨["Name".toList, "Note".toList],
        [[("Name".toList, "ann".toList), ("Note".toList, "left open".toList)]]⟩ := by
  intro content blanks
  have hedge : Csv.AtEdge content [] := .inr (.inr (.inl rfl))
  have hblanks : ∀ c ∈ blanks, Blank.isEdge c = true := List.all_eq_true.mp (by decide)
  have hsame := (parse_tidy content).2.2 content blanks [] (List.append_nil _).symm hedge hblanks
  exact ⟨hedge, hblanks, hsame, by decide +kernel⟩

end Table

end ArtifactSearch
