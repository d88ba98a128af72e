import ArtifactSearch.Index
import ArtifactSearch.Text.Blank
import ArtifactSearch.Text.Lower

/-!
# ArtifactSearch.Query

**Queries and their results.** A query text is read as one of three kinds:

* blank: every record of every index;
* `index=` with a name, then perhaps more text: the records of that index,
  narrowed to those that hold the text;
* anything else: the records of any index that hold the text.

A record holds a text if some value of it, or some column name of its index,
contains it, all in lower case. There is nothing else: no operators, no fields.

The keyword is read in any casing, and its i also as a dotless or a dotted
capital i. What follows the name must be on one line, or the whole query is
plain text.
-/

namespace ArtifactSearch

/-- A query as it is evaluated. Names and needles are in lower case. -/
inductive Query where
  /-- Every record of every index. -/
  | all
  /-- The records of the index called `name` that hold `needle`. -/
  | within (name needle : Text)
  /-- The records of any index that hold `needle`. -/
  | anywhere (needle : Text)
  deriving Repr, DecidableEq

/-- A selected record with the name of its index. Its values are texts, or
whatever stands in for them in an export. -/
structure Hit (α : Type) where
  /-- The name of the index. -/
  index : Text
  /-- The record. -/
  row : Entries α
  deriving Repr, DecidableEq

namespace Query

/-- Whether a character stands for a letter of the keyword. -/
def isKeywordLetter (letter c : Char) : Bool :=
  c.toLower = letter || (letter = 'i' && (c = 'İ' || c = 'ı'))

/-- What follows the keyword at the start of a text. -/
def afterKeyword? : Text → Option Text
  | i :: n :: d :: e :: x :: '=' :: rest =>
    if isKeywordLetter 'i' i && isKeywordLetter 'n' n && isKeywordLetter 'd' d
        && isKeywordLetter 'e' e && isKeywordLetter 'x' x then
      some rest
    else none
  | _ => none

/-- The name and the further text of an `index=` query. -/
def indexForm? (s : Text) : Option (Text × Text) := do
  let rest ← afterKeyword? s
  let name := rest.takeWhile (fun c => !Blank.isSpace c)
  let further := (rest.dropWhile (fun c => !Blank.isSpace c)).dropWhile Blank.isSpace
  if name.isEmpty || further.contains '\n' then none else some (name, further)

/-- The query that a text asks for. Every text asks for one. -/
def read (text : Text) : Query :=
  let s := Text.trim Blank.isSpace text
  if s.isEmpty then .all
  else match indexForm? s with
    | some (name, further) =>
      .within (Text.lower name) (Text.lower (Text.trim Blank.isSpace further))
    | none => .anywhere (Text.lower s)

/-- Whether some value of a record, or some column name, contains the needle in
lower case. -/
def holds (needle : Text) (columns : List Text) (record : Record) : Bool :=
  record.values.any (fun value => Text.occursIn needle (Text.lower value))
    || columns.any (fun column => Text.occursIn needle (Text.lower column))

/-- The records of one index that hold the needle. The empty needle selects
every record. -/
def hitsIn (needle : Text) (index : Index) : List (Hit Text) :=
  (index.records.filter (fun record => needle.isEmpty || holds needle index.columns record)).map
    (fun record => ⟨index.name, record⟩)

/-- The results of a query over the given indexes, in index order and then in
record order. -/
def hits (query : Query) (indexes : List Index) : List (Hit Text) :=
  match query with
  | .all => indexes.flatMap (hitsIn [])
  | .within name needle =>
    (indexes.filter (fun index => Text.lower index.name = name)).flatMap (hitsIn needle)
  | .anywhere needle => indexes.flatMap (hitsIn needle)

/-- The results of a query text over an index map. -/
def evaluate (text : Text) (indexes : IndexMap) : List (Hit Text) :=
  (read text).hits indexes.values

end Query

end ArtifactSearch
