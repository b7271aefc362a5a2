/-
# Quoted text

Outlines and messages show text between quotes on one line. The quote in use and
the backslash are escaped, the common controls have short escapes, and any other
character that would not show as itself is written by its code point.
-/

import MarkdownFormat.Text.Printable

namespace MarkdownFormat.Quoted

/-- The lower-case hexadecimal digits of a number. -/
def hexDigits (n : Nat) : List Char :=
  Nat.toDigits 16 n

/-- An escape by code point. -/
def codePoint (c : Char) : List Char :=
  ['\\', 'u', '\x7b'] ++ hexDigits c.toNat ++ ['\x7d']

/-- One character between quotes of the given kind. `atStart` says that it stands
right after the opening quote. -/
def escape (quote : Char) (atStart : Bool) (c : Char) : List Char :=
  if c = '\x00' then ['\\', '0']
  else if c = '\t' then ['\\', 't']
  else if c = '\r' then ['\\', 'r']
  else if c = '\n' then ['\\', 'n']
  else if c = '\\' ∨ c = quote then ['\\', c]
  else if atStart && extendsGrapheme c then codePoint c
  else if isPrintable c then [c]
  else codePoint c

/-- A text between double quotes. -/
def text : List Char → List Char
  | [] => ['"', '"']
  | c :: rest => '"' :: escape '"' true c ++ rest.flatMap (escape '"' false) ++ ['"']

/-- A character between single quotes. -/
def char (c : Char) : List Char :=
  '\'' :: escape '\'' true c ++ ['\'']

end MarkdownFormat.Quoted
