import ArtifactSearch.Csv.Fields
import Mathlib.Data.List.SplitBy

/-!
# ArtifactSearch.Proofs.Csv.Parity

**Fields by the parity of quotes.** What the scanner finds in a line can be told without
a scanner, from the number of quotes ahead of each character (`marked`): a comma divides
fields if that number is even, and of a run of quotes about half are data, one less if
the run starts at an even number and its first quote opens a quoted stretch (`kept`).

A line is taken apart into runs of quotes and single other characters (`stretches_induction`). In
front of each of them the scanner is outside quotes or inside them, by parity alone
(`modeAt`); the third mode only exists within a run and right behind one, where it is as
good as standing outside quotes (`finish_run_closing`).
-/

namespace ArtifactSearch.Csv

/-! ### Segments between dividing commas -/

/-- The characters of a line, each with the number of quotes ahead of it, if there are `n`
ahead of the line. -/
def marked (n : Nat) (line : Text) : List (Char × Nat) :=
  line.mapIdx fun i c => (c, n + (line.take i).count '"')

/-- A comma divides fields if the number of quotes ahead of it is even. -/
def divides (mark : Char × Nat) : Bool := mark.1 = ',' && mark.2 % 2 = 0

/-- The stretches of a line between the commas that divide fields. -/
def segments (n : Nat) (line : Text) : List (List (Char × Nat)) :=
  (marked n line).splitOnP divides

/-- How many quotes of a run of `k` are data, with `n` quotes ahead of the run. -/
def kept (n k : Nat) : Nat := if n % 2 = 0 then (k - 1) / 2 else k / 2

/-- The data of a run of quotes, or of any other character. -/
def runData : List (Char × Nat) → Text
  | [] => []
  | (c, n) :: rest =>
    if c = '"' then List.replicate (kept n (rest.length + 1)) '"' else c :: rest.map Prod.fst

/-- The data of a segment: its quotes are taken in runs as long as possible. -/
def content (segment : List (Char × Nat)) : Text :=
  (segment.splitBy fun a b => a.1 = '"' && b.1 = '"').flatMap runData

/-! ### Marks -/

theorem marked_append (n : Nat) (a b : Text) :
    marked n (a ++ b) = marked n a ++ marked (n + a.count '"') b := by
  unfold marked
  rw [List.mapIdx_append]
  congr 1
  · refine List.mapIdx_eq_mapIdx_iff.mpr fun i hi => ?_
    rw [List.take_append_of_le_length (Nat.le_of_lt hi)]
  · refine List.mapIdx_eq_mapIdx_iff.mpr fun i _ => ?_
    rw [Nat.add_comm i, List.take_length_add_append, List.count_append, Nat.add_assoc]

theorem marked_cons_of_ne {c : Char} (h : c ≠ '"') (n : Nat) (rest : Text) :
    marked n (c :: rest) = (c, n) :: marked n rest := by
  have hsplit := marked_append n [c] rest
  rw [List.count_singleton, if_neg (by simpa using h)] at hsplit
  exact hsplit

theorem marked_quotes_append (n k : Nat) (rest : Text) :
    marked n (List.replicate k '"' ++ rest)
      = marked n (List.replicate k '"') ++ marked (n + k) rest := by
  rw [marked_append, List.count_replicate_self]

theorem fst_of_mem_marked_quotes {n k : Nat} {mark : Char × Nat}
    (h : mark ∈ marked n (List.replicate k '"')) : mark.1 = '"' := by
  obtain ⟨i, hi, rfl⟩ := List.mem_mapIdx.mp h
  exact List.getElem_replicate hi

theorem length_marked (n : Nat) (line : Text) : (marked n line).length = line.length :=
  List.length_mapIdx

/-! ### Segments -/

theorem splitOnP_append_of_not {α : Type} {p : α → Bool} {a b : List α} (h : ∀ x ∈ a, p x = false)
    {first : List α} {others : List (List α)} (hb : b.splitOnP p = first :: others) :
    (a ++ b).splitOnP p = (a ++ first) :: others := by
  induction a with
  | nil => exact hb
  | cons x rest ih =>
      obtain ⟨hx, hrest⟩ := List.forall_mem_cons.mp h
      rw [List.cons_append, List.splitOnP_cons_eq_if_modifyHead, if_neg (by simp [hx]), ih hrest]
      rfl

theorem length_splitOnP {α : Type} (p : α → Bool) (l : List α) :
    (l.splitOnP p).length = 1 + l.countP p := by
  induction l with
  | nil => rfl
  | cons x rest ih =>
      rw [List.splitOnP_cons_eq_if_modifyHead, List.countP_cons]
      split
      · rw [List.length_cons, ih]
        omega
      · rw [List.length_modifyHead, ih, Nat.add_zero]

theorem segments_comma {n : Nat} (h : n % 2 = 0) (rest : Text) :
    segments n (',' :: rest) = [] :: segments n rest := by
  rw [segments, marked_cons_of_ne (by decide), List.splitOnP_cons_eq_if_modifyHead,
    if_pos (by simp [divides, h])]
  rfl

section Split

variable {n : Nat} {rest : Text} {first : List (Char × Nat)} {others : List (List (Char × Nat))}

theorem segments_cons {c : Char} (hquote : c ≠ '"') (hdivides : divides (c, n) = false)
    (h : segments n rest = first :: others) :
    segments n (c :: rest) = ((c, n) :: first) :: others := by
  rw [segments, marked_cons_of_ne hquote]
  exact splitOnP_append_of_not (List.forall_mem_singleton.mpr hdivides) h

theorem segments_quotes (k : Nat) (h : segments (n + k) rest = first :: others) :
    segments n (List.replicate k '"' ++ rest)
      = (marked n (List.replicate k '"') ++ first) :: others := by
  rw [segments, marked_quotes_append]
  refine splitOnP_append_of_not (fun mark hmark => ?_) h
  simp [divides, fst_of_mem_marked_quotes hmark]

/-- The first segment starts as the line does, unless it is empty. -/
theorem fst_head_of_segments (h : segments n rest = first :: others) {mark : Char × Nat}
    (hmark : first.head? = some mark) : rest.head? = some mark.1 := by
  cases rest with
  | nil =>
      cases h
      cases hmark
  | cons c rest =>
      obtain ⟨m, hm⟩ : ∃ m, marked n (c :: rest) = (c, n) :: m :=
        ⟨_, by rw [marked, List.mapIdx_cons]; rfl⟩
      rw [segments, hm, List.splitOnP_cons_eq_if_modifyHead] at h
      split at h
      · cases h
        cases hmark
      · obtain ⟨head, tail, htail⟩ := List.exists_cons_of_ne_nil (List.splitOnP_ne_nil divides m)
        rw [htail] at h
        cases h
        cases hmark
        rfl

end Split

/-! ### Data -/

theorem content_cons {c : Char} (h : c ≠ '"') (n : Nat) (segment : List (Char × Nat)) :
    content ((c, n) :: segment) = c :: content segment := by
  have hsplit : ((c, n) :: segment).splitBy (fun a b => a.1 = '"' && b.1 = '"')
      = [(c, n)] :: segment.splitBy fun a b => a.1 = '"' && b.1 = '"' := by
    refine (List.splitBy_append (l := [(c, n)]) fun mark hmark next _ => ?_).trans rfl
    cases hmark
    simp [h]
  rw [content, hsplit, List.flatMap_cons, runData, if_neg h]
  rfl

theorem content_quotes (n k : Nat) {segment : List (Char × Nat)}
    (h : ∀ mark, segment.head? = some mark → mark.1 ≠ '"') :
    content (marked n (List.replicate k '"') ++ segment)
      = List.replicate (kept n k) '"' ++ content segment := by
  cases k with
  | zero =>
      have hnone : kept n 0 = 0 := by simp [kept]
      rw [hnone]
      rfl
  | succ k =>
      have hquotes : ∀ mark ∈ marked n (List.replicate (k + 1) '"'), mark.1 = '"' :=
        fun mark hmark => fst_of_mem_marked_quotes hmark
      have hhead : marked n (List.replicate (k + 1) '"')
          = ('"', n) :: (marked n (List.replicate (k + 1) '"')).tail := by
        rw [List.replicate_succ, marked, List.mapIdx_cons]
        rfl
      have hrun : (marked n (List.replicate (k + 1) '"')).splitBy
          (fun a b => a.1 = '"' && b.1 = '"') = [marked n (List.replicate (k + 1) '"')] := by
        refine List.splitBy_of_isChain (by rw [hhead]; simp) (List.Pairwise.isChain ?_)
        exact List.pairwise_of_forall_mem_list fun a ha b hb => by simp [hquotes a ha, hquotes b hb]
      have hdata : runData (marked n (List.replicate (k + 1) '"'))
          = List.replicate (kept n (k + 1)) '"' := by
        have hlength : (marked n (List.replicate (k + 1) '"')).tail.length = k := by
          rw [List.length_tail, length_marked, List.length_replicate, Nat.add_sub_cancel]
        rw [hhead, runData, if_pos rfl, hlength]
      rw [content, List.splitBy_append, hrun, List.singleton_append, List.flatMap_cons, hdata,
        content]
      intro a _ b hb
      simp [h b hb]

/-! ### Runs of quotes in the scanner -/

/-- Where the scanner stands in front of a stretch, with `n` quotes behind it. -/
def modeAt (n : Nat) : Mode := if n % 2 = 0 then .bare else .quoted

theorem modeAt_of_even {n : Nat} (h : n % 2 = 0) : modeAt n = .bare := if_pos h

theorem modeAt_of_odd {n : Nat} (h : n % 2 ≠ 0) : modeAt n = .quoted := if_neg h

/-- Inside quotes every second quote of a run is data. An odd one is left over, which may
close the stretch. -/
theorem run_quoted_quotes : ∀ (k : Nat) (current : Text) (done : List Text),
    Scan.run ⟨.quoted, current, done⟩ (List.replicate k '"')
      = ⟨if k % 2 = 0 then .quoted else .closing, List.replicate (k / 2) '"' ++ current, done⟩
  | 0, _, _ => rfl
  | 1, _, _ => rfl
  | k + 2, current, done => by
      have hpair : Scan.run ⟨.quoted, current, done⟩ (List.replicate (k + 2) '"')
          = Scan.run ⟨.quoted, '"' :: current, done⟩ (List.replicate k '"') := rfl
      have hhalf : (k + 2) / 2 = k / 2 + 1 := by omega
      rw [hpair, run_quoted_quotes k, Nat.add_mod_right, hhalf, List.replicate_succ',
        List.append_assoc, List.singleton_append]

/-- Behind a run of quotes it makes no difference that the last one might have been the
first of a pair. -/
theorem finish_run_closing {rest : Text} (h : rest.head? ≠ some '"') (current : Text)
    (done : List Text) :
    (Scan.run ⟨.closing, current, done⟩ rest).finish
      = (Scan.run ⟨.bare, current, done⟩ rest).finish := by
  cases rest with
  | nil => rfl
  | cons c rest =>
      have hc : c ≠ '"' := fun hc => h (by rw [hc]; rfl)
      have hstep : Scan.step ⟨.closing, current, done⟩ c = Scan.step ⟨.bare, current, done⟩ c :=
        if_neg hc
      rw [Scan.run_cons, hstep, Scan.run_cons]

theorem finish_run_quoted_quotes {rest : Text} (h : rest.head? ≠ some '"') (k : Nat)
    (current : Text) (done : List Text) :
    (Scan.run ⟨.quoted, current, done⟩ (List.replicate k '"' ++ rest)).finish
      = (Scan.run ⟨modeAt (k + 1), List.replicate (k / 2) '"' ++ current, done⟩ rest).finish := by
  rw [Scan.run_append, run_quoted_quotes]
  by_cases hk : k % 2 = 0
  · rw [if_pos hk, modeAt_of_odd (by omega)]
  · rw [if_neg hk, modeAt_of_even (by omega), finish_run_closing h]

/-- A run of quotes leaves the scanner where parity says, with the quotes that are data in
the field under way. -/
theorem finish_run_quotes {rest : Text} (h : rest.head? ≠ some '"') (n k : Nat)
    (current : Text) (done : List Text) :
    (Scan.run ⟨modeAt n, current, done⟩ (List.replicate k '"' ++ rest)).finish
      = (Scan.run ⟨modeAt (n + k), List.replicate (kept n k) '"' ++ current, done⟩ rest).finish := by
  have hmode : ∀ {a b : Nat}, a % 2 = b % 2 → modeAt a = modeAt b := fun hab => by
    rw [modeAt, modeAt, hab]
  by_cases hn : n % 2 = 0
  · rw [modeAt_of_even hn, kept, if_pos hn]
    cases k with
    | zero => rw [Nat.add_zero, modeAt_of_even hn]; rfl
    | succ k =>
        -- The first quote of the run opens a quoted stretch.
        have hopen : Scan.run ⟨.bare, current, done⟩ (List.replicate (k + 1) '"' ++ rest)
            = Scan.run ⟨.quoted, current, done⟩ (List.replicate k '"' ++ rest) := rfl
        rw [hopen, finish_run_quoted_quotes h, Nat.add_sub_cancel,
          hmode (by omega : (k + 1) % 2 = (n + (k + 1)) % 2)]
  · rw [modeAt_of_odd hn, kept, if_neg hn, finish_run_quoted_quotes h,
      hmode (by omega : (k + 1) % 2 = (n + k) % 2)]

/-! ### Stretches of a line -/

/-- Lines are built of runs of quotes and other characters. -/
@[elab_as_elim]
theorem stretches_induction {motive : Text → Prop} (nil : motive [])
    (other : ∀ c rest, c ≠ '"' → motive rest → motive (c :: rest))
    (quotes : ∀ k rest, rest.head? ≠ some '"' → motive rest →
      motive (List.replicate k '"' ++ rest)) (line : Text) : motive line := by
  -- The quotes that the line goes on with may belong to a run under way.
  suffices h : ∀ k, motive (List.replicate k '"' ++ line) from h 0
  induction line with
  | nil => exact fun k => quotes k [] nofun nil
  | cons c rest ih =>
      intro k
      by_cases hc : c = '"'
      · have hlonger : List.replicate k '"' ++ c :: rest = List.replicate (k + 1) '"' ++ rest := by
          rw [hc, List.replicate_succ', List.append_assoc, List.singleton_append]
        exact hlonger ▸ ih (k + 1)
      · exact quotes k (c :: rest) (by simpa using hc) (other c rest hc (ih 0))

/-- The scanner finishes with the segments' data, trimmed. The data of the first of them
stand behind those of the field under way. -/
theorem finish_run_segments (line : Text) :
    ∀ (n : Nat) (current : Text) (done : List Text) (first : List (Char × Nat))
      (others : List (List (Char × Nat))), segments n line = first :: others →
    (Scan.run ⟨modeAt n, current, done⟩ line).finish
      = done.reverse ++ Text.trim Blank.isEdge (current.reverse ++ content first) ::
          others.map fun segment => Text.trim Blank.isEdge (content segment) := by
  induction line using stretches_induction with
  | nil =>
      intro n current done first others h
      cases h
      simp [Scan.finish, Scan.field, content]
  | other c rest hc ih =>
      intro n current done first others h
      obtain ⟨head, tail, hrest⟩ :=
        List.exists_cons_of_ne_nil (List.splitOnP_ne_nil divides (marked n rest))
      by_cases hdivides : divides (c, n) = true
      · simp only [divides, Bool.and_eq_true, decide_eq_true_eq] at hdivides
        obtain ⟨rfl, hn⟩ := hdivides
        rw [segments_comma hn, segments, hrest] at h
        cases h
        have hstep : Scan.step ⟨modeAt n, current, done⟩ ','
            = ⟨modeAt n, [], Text.trim Blank.isEdge current.reverse :: done⟩ := by
          rw [modeAt_of_even hn]
          rfl
        rw [Scan.run_cons, hstep, ih n _ _ head tail hrest]
        simp [content]
      · rw [segments_cons hc (by simpa using hdivides) hrest] at h
        cases h
        have hstep : Scan.step ⟨modeAt n, current, done⟩ c = ⟨modeAt n, c :: current, done⟩ := by
          by_cases hn : n % 2 = 0
          · have hcomma : c ≠ ',' := fun hcomma => hdivides (by simp [divides, hcomma, hn])
            simp [modeAt_of_even hn, Scan.step, Scan.stepBare, hc, hcomma]
          · simp [modeAt_of_odd hn, Scan.step, hc]
        rw [Scan.run_cons, hstep, ih n _ _ head _ hrest, content_cons hc]
        simp
  | quotes k rest hhead ih =>
      intro n current done first others h
      obtain ⟨head, tail, hrest⟩ :=
        List.exists_cons_of_ne_nil (List.splitOnP_ne_nil divides (marked (n + k) rest))
      rw [segments_quotes k hrest] at h
      cases h
      have hrun : ∀ mark, head.head? = some mark → mark.1 ≠ '"' := fun mark hmark hquote =>
        hhead (hquote ▸ fst_head_of_segments hrest hmark)
      rw [finish_run_quotes hhead, ih (n + k) _ _ head _ hrest, content_quotes n k hrun]
      simp

/-- **The fields of a line by the parity of quotes.** They are what stands between the
commas with an even number of quotes ahead of them, one more than there are such commas.
In each of them every character but a quote is data; of a run of `k` quotes with an even
number ahead `(k - 1) / 2` are, and `k / 2` of a run with an odd number ahead. Edge blanks
go last. So it is in every line, with quotes in whatever place or number. -/
theorem fields_eq_segments (line : Text) :
    fields line
        = (segments 0 line).map (fun segment => Text.trim Blank.isEdge (content segment)) ∧
      (fields line).length = 1 + (marked 0 line).countP divides := by
  obtain ⟨first, others, hsegments⟩ :=
    List.exists_cons_of_ne_nil (List.splitOnP_ne_nil divides (marked 0 line))
  have hfields : fields line
      = (segments 0 line).map fun segment => Text.trim Blank.isEdge (content segment) := by
    rw [fields, Scan.start, show Mode.bare = modeAt 0 from rfl,
      finish_run_segments line 0 [] [] first others hsegments, segments, hsegments]
    rfl
  refine ⟨hfields, ?_⟩
  rw [hfields, List.length_map, segments, length_splitOnP]

example : fields " a\"\"\"b\" , c,\"d\"\",e ".toList = ["a\"b".toList, "c".toList, "d\",e".toList] := by
  decide

end ArtifactSearch.Csv
