import ArtifactSearch.Text.Integer
import ArtifactSearch.Text.Lower

/-!
# ArtifactSearch.Workbook.Title

**Sheet titles.** A title must not be empty or hold certain characters. A title
that agrees with another one in lower case gets a number behind it, one more
than the largest number found behind it anywhere in the titles. There, letters
count as the same in any casing, one by one; a title that is not found that way,
because its lower case has another length, stays as it is.
-/

namespace ArtifactSearch

/-- Why a title is refused. -/
inductive TitleError where
  /-- It is empty. -/
  | empty
  /-- It holds a character that no title may hold. -/
  | character (c : Char)
  deriving Repr, DecidableEq

/-- The wording of an error. -/
def TitleError.message : TitleError → Text
  | .empty => "Title must have at least one character".toList
  | .character c => "Invalid character ".toList ++ c :: " found in sheet title".toList

namespace Title

/-- The title of a sheet that was given none. -/
def default : Text := "Sheet".toList

/-- The characters that no title may hold. -/
def forbidden : List Char := ['\\', '*', '?', ':', '/', '[', ']']

/-- What follows `title` at the start of a text, in any casing. -/
def after? (title s : Text) : Option Text :=
  match title, s with
  | [], s => some s
  | _ :: _, [] => none
  | t :: title, c :: s => if Text.alike t c then after? title s else none

/-- The text without a comma at its start. -/
def dropComma : Text → Text
  | ',' :: s => s
  | s => s

/-- The numbers behind the occurrences of `title` in a text, from left to right;
no digits count as zero. Where the title occurs, the search goes on behind it,
its number and the comma after that. -/
def numbersAfter (title : Text) : (fuel : Nat) → Text → List Nat
  | 0, _ => []
  | fuel + 1, s =>
    match after? title s with
    | some rest =>
      let digits := rest.takeWhile (fun c => (Text.digitValue? c).isSome)
      Text.ofDigits (digits.filterMap Text.digitValue?)
        :: numbersAfter title fuel (dropComma (rest.drop digits.length))
    | none =>
      match s with
      | [] => []
      | _ :: s => numbersAfter title fuel s

/-- A title with the number behind it that none of `numbers` reaches, if there
are any. -/
def numbered (title : Text) (numbers : List Nat) : Text :=
  if numbers.isEmpty then title else title ++ Nat.toDigits 10 (numbers.foldl max 0 + 1)

/-- A title to tell from all `titles`. -/
def distinct (titles : List Text) (title : Text) : Text :=
  if titles.any (fun other => Text.lower other = Text.lower title) then
    let all := Text.join [','] titles
    numbered title (numbersAfter title (all.length + 1) all)
  else title

/-- A title fit for a sheet beside the given ones. -/
def accept (titles : List Text) (title : Text) : Except TitleError Text :=
  if title.isEmpty then .error .empty
  else match title.find? (fun c => forbidden.contains c) with
    | some c => .error (.character c)
    | none => .ok (distinct titles title)

end Title

end ArtifactSearch
