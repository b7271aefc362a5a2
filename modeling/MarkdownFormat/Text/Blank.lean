/-
# Blank characters

Three sets of blanks are in use. Decoded text goes by the Unicode property
White_Space; raw bytes go by the five blanks of ASCII, which leave out the
vertical tab; and what a reader skips between the parts of a construct is a space,
a tab or a line ending. `trimmedLine` cuts the end of an output line by the first
set when the line is text and by the second when it is not.
-/

import MarkdownFormat.Text.Utf8

namespace MarkdownFormat

/-- The Unicode property White_Space. -/
def isBlank (c : Char) : Bool :=
  let n := c.toNat
  (0x09 ≤ n && n ≤ 0x0D) || n == 0x20 || n == 0x85 || n == 0xA0 || n == 0x1680
    || (0x2000 ≤ n && n ≤ 0x200A) || n == 0x2028 || n == 0x2029 || n == 0x202F
    || n == 0x205F || n == 0x3000

/-- Whether a character ends a line. -/
def isLineEnd (c : Char) : Bool :=
  c = '\n' || c = '\r'

/-- Space or tab. -/
def isSpaceChar (c : Char) : Bool :=
  c = ' ' || c = '\t'

/-- A blank between the parts of a construct: space, tab or line ending. -/
def isGap (c : Char) : Bool :=
  isSpaceChar c || isLineEnd c

/-- Space, tab, line feed, form feed and carriage return. -/
def isBlankByte (byte : UInt8) : Bool :=
  byte == 0x20 || byte == 0x09 || byte == 0x0A || byte == 0x0C || byte == 0x0D

/-- A list without its longest suffix of elements that satisfy `p`. -/
def dropTrailing {α : Type} (p : α → Bool) (xs : List α) : List α :=
  (xs.reverse.dropWhile p).reverse

/-- Bytes without trailing ASCII blanks. -/
def trimBytesEnd (bytes : Bytes) : Bytes :=
  dropTrailing isBlankByte bytes

/-- Bytes without ASCII blanks at either end. -/
def trimBytes (bytes : Bytes) : Bytes :=
  trimBytesEnd (bytes.dropWhile isBlankByte)

/-- A line without its trailing blanks, Unicode ones if the line is text. -/
def trimmedLine (line : Bytes) : Bytes :=
  match Utf8.decode line with
  | .ok text => Utf8.encode (dropTrailing isBlank text)
  | .error _ => trimBytesEnd line

end MarkdownFormat
