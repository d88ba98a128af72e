import ArtifactSearch.CommandLine.Word

/-!
# ArtifactSearch.CommandLine.Reading

**Reading a command line** word by word under a grammar.

* Switches take effect in order. The one that asks for help ends the reading at
  once, and so does the first fault; only words that cannot be told apart are
  found out before.
* Operands count as long as they stand together, before, between or behind the
  switches; later ones are left over, like unknown switches.
* From the name of a command on, all words belong to that command.
-/

namespace ArtifactSearch.CommandLine

/-- Why a reading ends before the end of the line. -/
inductive Stop where
  /-- Help is asked for. -/
  | help
  /-- There is a fault. -/
  | misuse (cause : Misuse)
  deriving Repr, DecidableEq

/-- How far the reading is with the operands. -/
inductive Stage where
  /-- There was none yet. -/
  | before
  /-- The last word was one. -/
  | within
  /-- There were some, and something else after them. -/
  | after
  deriving Repr, DecidableEq

/-- What has been read of a line. -/
structure Reading where
  /-- The switches and their values, in order. -/
  taken : List (Switch × Text)
  /-- The operands. -/
  operands : List Text
  /-- How far the reading is with them. -/
  stage : Stage
  /-- The words that the grammar has no use for. -/
  leftover : List Text
  /-- A switch that waits for its value, with the switches before it in the same
  word. -/
  pending : Option (List Switch × Switch)
  deriving Repr, DecidableEq

namespace Reading

/-- Nothing read. -/
def start : Reading := ⟨[], [], .before, [], none⟩

/-- The value of a switch; the last one counts. -/
def value? (reading : Reading) (switch : Switch) : Option Text :=
  (reading.taken.reverse.find? (fun entry => entry.1 = switch)).map Prod.snd

/-- Whether a switch was taken. -/
def has (reading : Reading) (switch : Switch) : Bool := (reading.value? switch).isSome

/-- The integer of a switch. -/
def integer? (reading : Reading) (switch : Switch) : Option Int :=
  (reading.value? switch).bind Text.integer?

/-- The reading with one more switch; one that takes nothing has the empty
value. -/
def take (reading : Reading) (switch : Switch) (value : Text) : Except Stop Reading :=
  if switch = .askHelp then .error .help
  else
    let reading := { reading with taken := reading.taken ++ [(switch, value)] }
    match switch.takes with
    | .integer _ =>
      if (Text.integer? value).isSome then .ok reading
      else .error (.misuse (.notAnInteger switch value))
    | _ => .ok reading

/-- The reading with switches that take nothing. -/
def takeAll (reading : Reading) : List Switch → Except Stop Reading
  | [] => .ok reading
  | switch :: rest => do takeAll (← reading.take switch []) rest

/-- The reading with a switch that nothing is attached to. If it takes
something, that must be the next word. -/
def takeBare (reading : Reading) (before : List Switch) (switch : Switch) :
    Except Stop Reading :=
  if switch.takes = .nothing then reading.takeAll (before ++ [switch])
  else .ok { reading with pending := some (before, switch) }

/-- The reading with a switch and the value in the same word. -/
def takeValue (reading : Reading) (before : List Switch) (switch : Switch) (value : Text) :
    Except Stop Reading :=
  if switch.takes = .nothing then .error (.misuse (.needlessValue switch value))
  else do (← reading.takeAll before).take switch value

/-- The reading with a switch and the characters behind its letter. They are its
value, or the letters of more switches if it takes nothing. A letter of no
switch is a fault, before any of the switches takes effect. -/
def takeLetters (grammar : Grammar) (reading : Reading) (before : List Switch) (switch : Switch) :
    Text → Except Stop Reading
  | [] => reading.takeBare before switch
  | c :: rest =>
    if switch.takes ≠ .nothing then reading.takeValue before switch (c :: rest)
    else match grammar.named? ['-', c] with
      | some next => takeLetters grammar reading (before ++ [switch]) next rest
      | none => .error (.misuse (.needlessValue switch (c :: rest)))

/-- The reading with a switch and what is attached to it. -/
def takeAttached (grammar : Grammar) (reading : Reading) (switch : Switch) :
    Attached → Except Stop Reading
  | .nothing => reading.takeBare [] switch
  | .value value => reading.takeValue [] switch value
  | .letters rest => reading.takeLetters grammar [] switch rest

/-- The reading with one more operand, or with the divider, which counts only
where a command may follow. -/
def addOperand (grammar : Grammar) (reading : Reading) (s : Text) (isDivider : Bool) : Reading :=
  match grammar.operands, reading.stage with
  | .command _ _, _ => { reading with operands := reading.operands ++ [s], stage := .within }
  | .none, _ | .many _ _, .after => { reading with leftover := reading.leftover ++ [s] }
  | .many _ _, _ =>
    { reading with
      operands := if isDivider then reading.operands else reading.operands ++ [s]
      stage := .within }

/-- The reading after something that is no operand. -/
def close (reading : Reading) : Reading :=
  { reading with stage := if reading.stage = .before then .before else .after }

/-- Whether the name of a command has been read. -/
def inCommand (grammar : Grammar) (reading : Reading) : Bool :=
  match grammar.operands with
  | .command _ _ => !reading.operands.isEmpty
  | _ => false

/-- The reading with one more word. -/
def step (grammar : Grammar) (reading : Reading) (entry : Text × Word) : Except Stop Reading :=
  match reading.pending, entry with
  | some (before, switch), (s, .operand) => do
    (← { reading with pending := none }.takeAll before).take switch s
  | some (_, switch), _ => .error (.misuse (.missingValue switch))
  | none, (s, word) =>
    if reading.inCommand grammar then .ok (reading.addOperand grammar s false)
    else match word with
      | .operand => .ok (reading.addOperand grammar s false)
      | .divider => .ok (reading.addOperand grammar s true)
      | .unknown => .ok { reading.close with leftover := reading.leftover ++ [s] }
      | .switch switch attached => reading.close.takeAttached grammar switch attached

/-- The reading at the end of the line. -/
def finish (reading : Reading) : Except Stop Reading :=
  match reading.pending with
  | some (_, switch) => .error (.misuse (.missingValue switch))
  | none => .ok reading

/-- The reading of a whole line. -/
def ofTexts (grammar : Grammar) (words : List Text) : Except Stop Reading :=
  match Word.ofTexts grammar words with
  | .ok words => do (← words.foldlM (step grammar) start).finish
  | .error cause => .error (.misuse cause)

end Reading

end ArtifactSearch.CommandLine
