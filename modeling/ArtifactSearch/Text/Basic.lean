/-!
# ArtifactSearch.Text.Basic

The **texts** this library works on, as lists of code points, and the few
operations every layer shares: trimming at the ends, containment, ASCII
classes.

* Trimming takes the class of characters to trim as an argument, because two
  different blank classes are in use (`ArtifactSearch.Text.Blank`).
* `occursIn` is a Bool check; `occursIn_iff` says it decides that one list is
  a contiguous part of the other.
* `precedes` orders texts by their first differing code point, with the shorter
  first where one starts the other; it is total and transitive, as a sort wants.
-/

namespace ArtifactSearch

/-- A text: the list of its code points. Surrogates cannot occur in one. -/
abbrev Text := List Char

namespace Text

/-- The text without its leading characters of the class `blank`. -/
def trimStart (blank : Char → Bool) (s : Text) : Text := s.dropWhile blank

/-- The text without its trailing characters of the class `blank`. -/
def trimEnd (blank : Char → Bool) (s : Text) : Text := (s.reverse.dropWhile blank).reverse

/-- The text without characters of the class `blank` at either end. -/
def trim (blank : Char → Bool) (s : Text) : Text := trimEnd blank (trimStart blank s)

/-- Whether `needle` stands somewhere in the text. The empty needle stands in
every text. -/
def occursIn (needle : Text) : Text → Bool
  | [] => needle.isEmpty
  | c :: rest => needle.isPrefixOf (c :: rest) || occursIn needle rest

theorem occursIn_iff (needle s : Text) : occursIn needle s = true ↔ needle <:+: s := by
  induction s with
  | nil => cases needle <;> simp [occursIn]
  | cons c rest ih =>
    rw [occursIn, Bool.or_eq_true, ih, List.isPrefixOf_iff_prefix, List.infix_cons_iff]

/-- The ASCII digits. -/
def isDigit (c : Char) : Bool := '0' ≤ c && c ≤ '9'

/-- The ASCII letters and digits. -/
def isAlphanumeric (c : Char) : Bool :=
  ('a' ≤ c && c ≤ 'z') || ('A' ≤ c && c ≤ 'Z') || isDigit c

/-- Pieces put together with `separator` between each two of them. -/
def join (separator : Text) (pieces : List Text) : Text := List.intercalate separator pieces

@[simp] theorem join_nil (separator : Text) : join separator [] = [] := rfl

@[simp] theorem join_singleton (separator piece : Text) : join separator [piece] = piece := by
  simp [join, List.intercalate]

theorem join_cons_cons (separator piece next : Text) (rest : List Text) :
    join separator (piece :: next :: rest)
      = piece ++ separator ++ join separator (next :: rest) := by
  simp [join, List.intercalate]

/-- The pieces between occurrences of `separator`; there is always one. -/
def split (separator : Char) (s : Text) : List Text :=
  s.foldr
    (fun c pieces =>
      if c = separator then [] :: pieces
      else match pieces with
        | [] => [[c]]
        | piece :: rest => (c :: piece) :: rest)
    [[]]

@[simp] theorem split_nil (separator : Char) : split separator [] = [[]] := rfl

theorem split_cons (separator c : Char) (s : Text) :
    split separator (c :: s) =
      if c = separator then [] :: split separator s
      else match split separator s with
        | [] => [[c]]
        | piece :: rest => (c :: piece) :: rest := rfl

theorem split_ne_nil (separator : Char) (s : Text) : split separator s ≠ [] := by
  cases s with
  | nil => simp
  | cons c s =>
    rw [split_cons]
    split
    · simp
    · split <;> simp

/-- Whether the first text comes before the second, or is it, by the first code
point in which they differ. -/
def precedes : Text → Text → Bool
  | [], _ => true
  | _ :: _, [] => false
  | a :: s, b :: t => a.toNat < b.toNat || (a.toNat == b.toNat && precedes s t)

theorem precedes_total (s t : Text) : (precedes s t || precedes t s) = true := by
  induction s generalizing t with
  | nil => simp [precedes]
  | cons a s ih =>
    cases t with
    | nil => simp [precedes]
    | cons b t =>
      rcases Nat.lt_trichotomy a.toNat b.toNat with h | h | h
      · simp [precedes, h]
      · simpa [precedes, h] using ih t
      · simp [precedes, h]

theorem precedes_trans {s t u : Text} (st : precedes s t = true) (tu : precedes t u = true) :
    precedes s u = true := by
  induction s generalizing t u with
  | nil => rfl
  | cons a s ih =>
    match t, u, st, tu with
    | b :: t, c :: u, st, tu =>
      simp only [precedes, Bool.or_eq_true, Bool.and_eq_true, decide_eq_true_eq, beq_iff_eq]
        at st tu ⊢
      rcases st with st | ⟨ab, st⟩ <;> rcases tu with tu | ⟨bc, tu⟩
      · exact .inl (Nat.lt_trans st tu)
      · exact .inl (bc ▸ st)
      · exact .inl (ab ▸ tu)
      · exact .inr ⟨ab.trans bc, ih st tu⟩

end Text

end ArtifactSearch
