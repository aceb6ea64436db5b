/-
The simple values of TOML: texts, numbers and moments.

A text stands between quotes, single or triple; between straight ones a
backslash begins an escape, between apostrophes it stands for itself. Whole
numbers fit 64 bits with a sign and may be written in base ten, sixteen, eight
or two; numbers with a fraction must not be too great. Moments are dates, times
or both.
-/
import RelayHub.Numeric.Binary64
import RelayHub.Text.Digits
import RelayHub.Text.Reader
import RelayHub.Toml.Value

set_option autoImplicit false

namespace RelayHub.Toml

open Reader

/-! ## Blanks and comments -/

/-- A space or a tab. -/
def isBlank (c : Char) : Bool :=
  c == ' ' || c == '\t'

/-- Passes over spaces and tabs. -/
def blanks : Reader Unit := do
  let _ ← many isBlank

/-- Characters that may stand in a comment. -/
def inComment (c : Char) : Bool :=
  c == '\t' || (0x20 ≤ c.toNat && c.toNat ≠ 0x7F)

/-- The end of a line. -/
def lineBreak : Reader Unit :=
  orElse (char '\n') (chars ['\r', '\n'])

/-- A comment up to the end of its line. -/
def comment : Reader Unit := do
  char '#'
  let _ ← many inComment

/-- The end of a line or of the text, with what may stand before it. -/
def lineEnd : Reader Unit := do
  blanks
  let _ ← Reader.optional comment
  orElse lineBreak atEnd

/-- Passes over blanks, line breaks and comments. -/
def gap : Reader Unit := do
  let _ ← manyOf <| orElse (do let _ ← several isBlank) <| orElse lineBreak do
    comment
    lineBreak

/-! ## Texts -/

/-- The quote of a text with escapes. -/
def quote : Char := '\x22'

/-- The quote of a text without. -/
def apostrophe : Char := '\x27'

/-- A character given by a number of hexadecimal digits. -/
def codePoint (digits : Nat) : Reader Char := do
  let n := numberOf 16 (← exactly digits (isDigitIn 16))
  guarded (n < 0xD800 || (0xDFFF < n && n < 0x110000))
  return Char.ofNat n

/-- What stands after a backslash. -/
def escape : Reader Char := do
  let c ← one fun _ => true
  if c == 'b' then return '\x08'
  else if c == 't' then return '\t'
  else if c == 'n' then return '\n'
  else if c == 'f' then return '\x0c'
  else if c == 'r' then return '\r'
  else if c == quote || c == '\\' then return c
  else if c == 'u' then codePoint 4
  else if c == 'U' then codePoint 8
  else failure

/-- Characters that stand for themselves in a text with escapes. -/
def isPlain (c : Char) : Bool :=
  inComment c && c != quote && c != '\\'

/-- Characters that stand for themselves in a text without. -/
def isRaw (c : Char) : Bool :=
  inComment c && c != apostrophe

/-- One character of a text with escapes. -/
def textChar : Reader Char :=
  orElse (one isPlain) do
    char '\\'
    escape

/-- A text with escapes on one line. -/
def basicText : Reader String := do
  char quote
  let cs ← manyOf textChar
  char quote
  return String.ofList cs

/-- A text without escapes on one line. -/
def rawText : Reader String := do
  char apostrophe
  let cs ← many isRaw
  char apostrophe
  return String.ofList cs

/-- A line break, which counts as a line feed. -/
def breakChar : Reader (List Char) := do
  lineBreak
  return ['\n']

/-- A backslash at the end of a line, with the blanks and line breaks after
it. -/
def continuation : Reader (List Char) := do
  char '\\'
  blanks
  lineBreak
  let _ ← manyOf (orElse (do let _ ← one isBlank) lineBreak)
  return []

/-- One or two quotes inside a long text. -/
def innerQuotes (q : Char) : Reader (List Char) := fun cs =>
  let run := (cs.takeWhile (· == q)).length
  if 0 < run ∧ run < 3 then some (List.replicate run q, cs.drop run) else none

/-- The quotes that end a long text; two more may belong to the text. -/
def closingQuotes (q : Char) : Reader (List Char) := fun cs =>
  let run := min 5 (cs.takeWhile (· == q)).length
  if 3 ≤ run then some (List.replicate (run - 3) q, cs.drop run) else none

/-- A text over several lines, made of the given pieces. A line break right
after the opening quotes does not count. -/
def longText (q : Char) (piece : Reader (List Char)) : Reader String := do
  chars [q, q, q]
  let _ ← Reader.optional lineBreak
  let pieces ← manyOf (orElse piece (orElse breakChar (innerQuotes q)))
  let last ← closingQuotes q
  return String.ofList (pieces.flatten ++ last)

/-- A long text with escapes. -/
def longBasicText : Reader String :=
  longText quote (orElse (several isPlain) (orElse continuation do return [← textChar]))

/-- A long text without escapes. -/
def longRawText : Reader String :=
  longText apostrophe (several isRaw)

/-- A text. -/
def anyText : Reader String :=
  orElse longBasicText (orElse basicText (orElse longRawText rawText))

/-! ## Keys -/

/-- Characters of a key without quotes. -/
def inBareKey (c : Char) : Bool :=
  c.isAlphanum || c == '_' || c == '-'

/-- One part of a key. -/
def simpleKey : Reader String :=
  orElse basicText <| orElse rawText do
    return String.ofList (← several inBareKey)

/-- How deep keys and values may go. -/
def depthLimit : Nat := 80

/-- A key: its parts, with dots between them. -/
def dottedKey : Reader (List String) := do
  let part : Reader String := do
    blanks
    let s ← simpleKey
    blanks
    return s
  let first ← part
  let others ← manyOf do
    char '.'
    part
  guarded (others.length + 1 < depthLimit)
  return first :: others

/-! ## Numbers -/

/-- Digits in a base; single underscores may stand between them. -/
def digitsIn (base : Nat) : Reader (List Char) := do
  let first ← one (isDigitIn base)
  let others ← manyOf <| orElse (one (isDigitIn base)) do
    char '_'
    one (isDigitIn base)
  return first :: others

/-- A sign, if there is one: whether it is a minus. -/
def sign : Reader Bool := do
  match ← Reader.optional (one fun c => c == '+' || c == '-') with
  | some c => return c == '-'
  | none => return false

/-- The digits of a whole number in base ten, which has no leading zeros. -/
def decimalDigits : Reader (List Char) :=
  orElse
    (do
      let c ← peek
      guarded (c != some '0')
      digitsIn 10)
    (do return [← one (· == '0')])

/-- A whole number that fits 64 bits. -/
def fitting (n : Int) : Reader Toml := do
  guarded (-(twoTo 63 : Int) ≤ n && n < twoTo 63)
  return .whole n

/-- A whole number. -/
def wholeNumber : Reader Toml := fun cs =>
  let based (base : Nat) : Reader Toml := do
    let _ ← exactly 2 fun _ => true
    fitting (numberOf base (← digitsIn base))
  match cs with
  | '0' :: 'x' :: _ => based 16 cs
  | '0' :: 'o' :: _ => based 8 cs
  | '0' :: 'b' :: _ => based 2 cs
  | _ =>
    (do
      let negative ← sign
      let n : Int := numberOf 10 (← decimalDigits)
      fitting (if negative then -n else n) : Reader Toml) cs

/-- Whether a decimal lies within the range of numbers with a fraction. -/
def isFinite (digits : List Char) (exponent : Int) : Bool :=
  let n := numberOf 10 digits
  let magnitude := (Nat.toDigits 10 n).length + exponent
  if n = 0 ∨ magnitude < -400 then true
  else if 400 < magnitude then false
  else
    let num := n * tenTo exponent.toNat
    let den := tenTo (-exponent).toNat
    (Binary64.roundQuotient num den).isSome

/-- The part of a number after its exponent mark. -/
def exponentPart : Reader Int := do
  let _ ← one fun c => c == 'e' || c == 'E'
  let negative ← sign
  let n : Int := numberOf 10 (← digitsIn 10)
  return if negative then -n else n

/-- A number with a fraction, an exponent or both. Only one that is too great,
and not one that is too small, is refused. -/
def decimalNumber : Reader Toml := do
  let negative ← sign
  let front ← decimalDigits
  let point ← Reader.optional do
    char '.'
    digitsIn 10
  let exponent ← Reader.optional exponentPart
  guarded (point.isSome || exponent.isSome)
  let places := point.getD []
  guarded (negative || isFinite (front ++ places) (exponent.getD 0 - places.length))
  return .fraction

/-- The names of the values that are no numbers or have no bound. -/
def specialNumber : Reader Toml := do
  let _ ← sign
  orElse (chars ['i', 'n', 'f']) (chars ['n', 'a', 'n'])
  return .fraction

/-! ## Moments -/

/-- A number of two digits in a range. -/
def twoDigits (low high : Nat) : Reader Nat := do
  let n := numberOf 10 (← exactly 2 (isDigitIn 10))
  guarded (low ≤ n && n ≤ high)
  return n

/-- The days of a month. -/
def daysIn (year month : Nat) : Nat :=
  let leap := year % 4 = 0 ∧ (year % 100 ≠ 0 ∨ year % 400 = 0)
  if month = 2 then (if leap then 29 else 28)
  else if month = 4 ∨ month = 6 ∨ month = 9 ∨ month = 11 then 30
  else 31

/-- A date. -/
def date : Reader Unit := do
  let year := numberOf 10 (← exactly 4 (isDigitIn 10))
  char '-'
  let month ← twoDigits 1 12
  char '-'
  let _ ← twoDigits 1 (daysIn year month)

/-- A time of day. -/
def time : Reader Unit := do
  let _ ← twoDigits 0 23
  char ':'
  let _ ← twoDigits 0 59
  char ':'
  let _ ← twoDigits 0 60
  let _ ← Reader.optional do
    char '.'
    several (isDigitIn 10)

/-- How far a time is from the standard one. -/
def offset : Reader Unit :=
  orElse (do let _ ← one fun c => c == 'Z' || c == 'z') do
    let _ ← one fun c => c == '+' || c == '-'
    let _ ← twoDigits 0 23
    char ':'
    let _ ← twoDigits 0 59

/-- A date, a time of day, or both. -/
def anyMoment : Reader Toml := do
  orElse
    (do
      date
      let _ ← Reader.optional do
        let _ ← one fun c => c == 'T' || c == 't' || c == ' '
        time
        Reader.optional offset)
    time
  return .moment

/-! ## Simple values -/

/-- True or false. -/
def truth : Reader Toml :=
  orElse (do chars ['t', 'r', 'u', 'e']; return .boolean true) do
    chars ['f', 'a', 'l', 's', 'e']
    return .boolean false

/-- A simple value. -/
def scalar : Reader Toml :=
  orElse (do return .text (← anyText)) <| orElse truth <| orElse anyMoment <|
    orElse decimalNumber <| orElse specialNumber wholeNumber

end RelayHub.Toml
