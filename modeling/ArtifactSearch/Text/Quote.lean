import ArtifactSearch.Text.Basic
import ArtifactSearch.Text.Printable

/-!
# ArtifactSearch.Text.Quote

**Quoted forms in messages.** A text or a run of bytes that a message cites
stands in quotes: single ones, unless it holds single and no double quotes.
What cannot be shown as it is stands as a short escape or by its number in
hexadecimal digits.
-/

namespace ArtifactSearch.Text

/-- The hexadecimal digit of a number below sixteen. -/
def hexDigit (n : Nat) : Char :=
  if n < 10 then Char.ofNat (0x30 + n) else Char.ofNat (0x61 + (n - 10))

/-- The last `width` hexadecimal digits of a number. -/
def hexDigits : Nat → Nat → Text
  | 0, _ => []
  | width + 1, n => hexDigits width (n / 16) ++ [hexDigit (n % 16)]

/-- The quote to put around a text. -/
def quoteMark (s : Text) : Char := if s.contains '\'' && !s.contains '"' then '"' else '\''

/-- A character inside the quotes `mark`; `shown` tells which ones stand as
they are. -/
def quoteChar (shown : Char → Bool) (mark c : Char) : Text :=
  if c = mark || c = '\\' then ['\\', c]
  else if c = '\t' then ['\\', 't']
  else if c = '\n' then ['\\', 'n']
  else if c = '\r' then ['\\', 'r']
  else if shown c then [c]
  else if c.toNat < 0x100 then '\\' :: 'x' :: hexDigits 2 c.toNat
  else if c.toNat < 0x10000 then '\\' :: 'u' :: hexDigits 4 c.toNat
  else '\\' :: 'U' :: hexDigits 8 c.toNat

/-- A text in quotes, with the rule `shown` for what stands as it is. -/
def quoteBy (shown : Char → Bool) (s : Text) : Text :=
  let mark := quoteMark s
  mark :: (s.flatMap (quoteChar shown mark) ++ [mark])

/-- A text in quotes. -/
def quote (s : Text) : Text := quoteBy isPrintable s

/-- Bytes in quotes, behind a `b`: only ASCII characters stand as they are. -/
def quoteBytes (bytes : List UInt8) : Text :=
  'b' :: quoteBy (fun c => 0x20 ≤ c.toNat && c.toNat < 0x7F)
    (bytes.map (fun b => Char.ofNat b.toNat))

example : quote "it's".toList = "\"it's\"".toList := by decide

example : quoteBytes [0x1F, 0x8C] = "b'\\x1f\\x8c'".toList := by decide

end ArtifactSearch.Text
