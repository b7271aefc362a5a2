/-
# Digits

The numbers that digit sequences spell, in any base up to sixteen, and the decimal
digits of a number. Lengths are given as text with an optional plus sign and at
least one decimal digit; their values stay below 2^64.
-/

namespace MarkdownFormat.Digits

/-- Whether a character is a hexadecimal digit. -/
def isHex (c : Char) : Bool :=
  c.isDigit || ('a' ≤ c && c ≤ 'f') || ('A' ≤ c && c ≤ 'F')

/-- The value of a hexadecimal digit. -/
def value (c : Char) : Nat :=
  if c.isDigit then c.toNat - '0'.toNat else c.toLower.toNat - 'a'.toNat + 10

/-- The number that some digits spell in a base. -/
def number (base : Nat) (digits : List Char) : Nat :=
  digits.foldl (fun n c => n * base + value c) 0

/-- The decimal digits of a number. -/
def decimal (n : Nat) : List Char :=
  Nat.toDigits 10 n

/-- The value of a nonempty sequence of decimal digits. -/
def readDecimal? (text : List Char) : Option Nat :=
  if text ≠ [] ∧ text.all Char.isDigit then some (number 10 text) else none

/-- Reads a length: digits after an optional plus sign, below 2^64. -/
def readLength? (text : List Char) : Option Nat :=
  let unsigned := match text with
    | '+' :: rest => rest
    | _ => text
  (readDecimal? unsigned).filter (· < Nat.pow 2 64)

end MarkdownFormat.Digits
