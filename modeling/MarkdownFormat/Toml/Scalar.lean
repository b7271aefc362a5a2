/-
# Strings, numbers, dates and times

The values without parts. Strings come in four forms: with or without escapes, on
one line or on several. Of numbers that are not integers, and of dates and times,
only their form is read, because no setting has such a value.
-/

import MarkdownFormat.Text.Digits
import MarkdownFormat.Toml.Scanner
import MarkdownFormat.Toml.Value

namespace MarkdownFormat.Toml.Scalar

open Scanner

/-- The character with the code point that some hexadecimal digits give. -/
def codePoint (count : Nat) : Scanner Char := do
  let digits ← exactly Digits.isHex count
  let n := Digits.number 16 digits
  if h : n.isValidChar then pure (Char.ofNatAux n h) else failure

/-- What an escape stands for. -/
def escape : Scanner Char := do
  symbol '\\'
  match ← one fun _ => true with
  | 'b' => pure '\x08'
  | 't' => pure '\t'
  | 'n' => pure '\n'
  | 'f' => pure '\x0c'
  | 'r' => pure '\r'
  | '"' => pure '"'
  | '\\' => pure '\\'
  | 'u' => codePoint 4
  | 'U' => codePoint 8
  | _ => failure

/-- A backslash at the end of a line, which hides all blanks up to the next
visible character. -/
def hiddenBreak : Scanner Unit := do
  symbol '\\'
  spaces
  lineEnd
  let _ ← many (lineEnd <|> (do let _ ← one isSpaceChar))

/-- A character of a string that stands for itself. -/
def verbatim (quote : Char) (escapes : Bool) : Scanner Char :=
  one fun c => isPlain c && c ≠ quote && !(escapes && c = '\\')

/-- A string on one line. -/
def shortString (quote : Char) (escapes : Bool) : Scanner String := do
  symbol quote
  let content := verbatim quote escapes
  let text ← many (if escapes then content <|> escape else content)
  symbol quote
  pure (String.ofList text)

/-- A part of a string on several lines. One or two quotes in a row belong to the
text. -/
def longPart (quote : Char) (escapes : Bool) : Scanner (List Char) :=
  (do let c ← verbatim quote escapes; pure [c])
    <|> (do lineEnd; pure ['\n'])
    <|> (do check escapes; hiddenBreak; pure [])
    <|> (do check escapes; let c ← escape; pure [c])
    <|> (do
      let quotes ← run (· = quote)
      check (1 ≤ quotes.length && quotes.length ≤ 2)
      pure quotes)

/-- A string on several lines. A line ending right after the opening quotes does
not count. Of up to five quotes at the end, the last three close the string. -/
def longString (quote : Char) (escapes : Bool) : Scanner String := do
  let _ ← exactly (· = quote) 3
  let _ ← optional lineEnd
  let parts ← many (longPart quote escapes)
  let closing ← run (· = quote)
  check (3 ≤ closing.length && closing.length ≤ 5)
  pure (String.ofList (parts.flatten ++ closing.drop 3))

/-- A string in any of the four forms. -/
def string : Scanner String :=
  longString '"' true <|> shortString '"' true
    <|> longString '\'' false <|> shortString '\'' false

/-- Digits, between which there may be single underscores. -/
def digits (isDigit : Char → Bool) : Scanner (List Char) := do
  let first ← one isDigit
  let rest ← many (do let _ ← optional (symbol '_'); one isDigit)
  pure (first :: rest)

/-- The digits of a decimal number, which does not begin with a superfluous zero. -/
def decimalDigits : Scanner (List Char) := do
  let read ← digits Char.isDigit
  check (read.head? ≠ some '0' || read.length = 1)
  pure read

/-- Whether an optional sign is a minus. -/
def minus : Scanner Bool :=
  (do symbol '-'; pure true) <|> (do symbol '+'; pure false) <|> pure false

/-- A number in a base that is not ten. -/
def based (mark : String) (base : Nat) (isDigit : Char → Bool) : Scanner Int := do
  word mark
  let read ← digits isDigit
  pure (Digits.number base read)

/-- A decimal number. -/
def decimal : Scanner Int := do
  let negative ← minus
  let read ← decimalDigits
  let n : Int := Digits.number 10 read
  pure (if negative then -n else n)

/-- An integer of 64 bits. -/
def integer : Scanner Int := do
  let n ← based "0x" 16 Digits.isHex
    <|> based "0o" 8 (fun c => '0' ≤ c && c ≤ '7')
    <|> based "0b" 2 (fun c => c = '0' || c = '1')
    <|> decimal
  check (-Int.pow 2 63 ≤ n && n < Int.pow 2 63)
  pure n

/-- Whether a number, given by its digits and a power of ten, is so large that a
float of 64 bits cannot hold it: half a unit past the largest one, or more. -/
def overflows (digits : List Char) (scale : Int) : Bool :=
  let n := Digits.number 10 digits
  let bound := Nat.pow 2 1024 - Nat.pow 2 970
  match scale with
  | .ofNat power => n ≠ 0 && (310 ≤ power || bound ≤ n * Nat.pow 10 power)
  | .negSucc power => power + 1 < digits.length && bound * Nat.pow 10 (power + 1) ≤ n

/-- A power of ten after a number. -/
def exponent : Scanner Int := do
  let _ ← one fun c => c = 'e' || c = 'E'
  let negative ← minus
  let n : Int := Digits.number 10 (← digits Char.isDigit)
  pure (if negative then -n else n)

/-- A number with a fraction, an exponent or both. -/
def decimalFloat : Scanner Unit := do
  let negative ← minus
  let whole ← decimalDigits
  let (fraction, power) ← (do
      let power ← exponent
      pure ([], power))
    <|> (do
      symbol '.'
      let fraction ← digits Char.isDigit
      let power ← exponent <|> pure 0
      pure (fraction, power))
  check (negative || !overflows (whole ++ fraction) (power - fraction.length))

/-- A float. -/
def float : Scanner Unit :=
  decimalFloat <|> (do
    let _ ← minus
    word "inf" <|> word "nan")

/-- A number with a fixed count of digits and within bounds. -/
def field (count low high : Nat) : Scanner Nat := do
  let n := Digits.number 10 (← exactly Char.isDigit count)
  check (low ≤ n && n ≤ high)
  pure n

/-- The number of days of a month. -/
def daysIn (year month : Nat) : Nat :=
  if month = 2 then
    if year % 4 = 0 ∧ (year % 100 ≠ 0 ∨ year % 400 = 0) then 29 else 28
  else if month = 4 ∨ month = 6 ∨ month = 9 ∨ month = 11 then 30
  else 31

/-- A date. -/
def date : Scanner Unit := do
  let year ← field 4 0 9999
  symbol '-'
  let month ← field 2 1 12
  symbol '-'
  let _ ← field 2 1 (daysIn year month)

/-- A time of day. The sixtieth second is a leap second. -/
def time : Scanner Unit := do
  let _ ← field 2 0 23
  symbol ':'
  let _ ← field 2 0 59
  symbol ':'
  let _ ← field 2 0 60
  let _ ← optional (do
    symbol '.'
    let _ ← one Char.isDigit
    let _ ← run Char.isDigit)

/-- The distance from universal time. -/
def offset : Scanner Unit :=
  (do let _ ← one fun c => c = 'Z' || c = 'z') <|> (do
    let _ ← one fun c => c = '+' || c = '-'
    let _ ← field 2 0 23
    symbol ':'
    let _ ← field 2 0 59)

/-- A date, a time, or both with or without an offset. -/
def moment : Scanner Unit :=
  (do
    date
    let _ ← optional (do
      let _ ← one fun c => c = 'T' || c = 't' || c = ' '
      time
      optional offset))
    <|> time

/-- A value without parts. -/
def value : Scanner Value :=
  (do let text ← string; pure (.string text))
    <|> (do moment <|> float <|> word "true" <|> word "false"; pure .other)
    <|> (do let n ← integer; pure (.integer n))

end MarkdownFormat.Toml.Scalar
