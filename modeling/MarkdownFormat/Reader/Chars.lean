/-
# Source characters

While Markdown is read, every character keeps the source range it stands for.
Lines and constructs can then be cut up and put together freely, and the range of
a result is read off its first and last character.
-/

import MarkdownFormat.Text.Lines
import MarkdownFormat.Text.Punctuation

namespace MarkdownFormat

/-- A character with its source range. -/
structure SourceChar where
  char : Char
  start : Nat
  stop : Nat
  deriving DecidableEq, Repr

/-- The characters that a source character was written with: two for a carriage
return with the line feed after it. -/
def SourceChar.spelling (c : SourceChar) : List Char :=
  if c.char = '\n' && c.start + 1 < c.stop then ['\r', '\n'] else [c.char]

/-- Some text of the source. -/
abbrev Chars := List SourceChar

namespace Chars

/-- Places the pieces of a byte string from an offset on. A carriage return and
the line feed after it are one line ending. -/
def place (offset : Nat) : List Utf8.Piece → Chars
  | [] => []
  | .char '\r' :: .char '\n' :: rest => ⟨'\n', offset, offset + 2⟩ :: place (offset + 2) rest
  | .char c :: rest =>
    let stop := offset + (Utf8.encodeChar c).length
    ⟨c, offset, stop⟩ :: place stop rest
  | piece@(.malformed length) :: rest | piece@(.truncated length) :: rest =>
    ⟨piece.shown, offset, offset + length⟩ :: place (offset + length) rest

/-- The characters of a source. -/
def ofBytes (source : Bytes) : Chars :=
  place 0 (Utf8.pieces source)

/-- The lines of some text, each with its ending. -/
def lines (text : Chars) : List Chars :=
  cutAfter (fun c => isLineEnd c.char) text

/-- Text without its ranges. -/
def text (chars : Chars) : List Char :=
  chars.map SourceChar.char

/-- Text without its ranges, as a string. -/
def string (chars : Chars) : String :=
  String.ofList chars.text

/-- Text as it was written, without its ranges. -/
def spelling (chars : Chars) : String :=
  String.ofList (chars.flatMap SourceChar.spelling)

/-- Where some text starts; if it is empty, the given offset. -/
def startOr (chars : Chars) (offset : Nat) : Nat :=
  (chars.head?.map SourceChar.start).getD offset

/-- Where some text stops; if it is empty, the given offset. -/
def stopOr (chars : Chars) (offset : Nat) : Nat :=
  (chars.getLast?.map SourceChar.stop).getD offset

/-- Whether some text has blanks only. -/
def isBlank (chars : Chars) : Bool :=
  chars.all fun c => isGap c.char

/-- Text without blanks at its start. -/
def dropGaps (chars : Chars) : Chars :=
  chars.dropWhile fun c => isGap c.char

/-- Text without spaces and tabs at its start. -/
def dropSpaces (chars : Chars) : Chars :=
  chars.dropWhile fun c => isSpaceChar c.char

/-- Text without blanks at its end. -/
def trimEnd (chars : Chars) : Chars :=
  dropTrailing (fun c => isGap c.char) chars

/-- Text without blanks at either end. -/
def trim (chars : Chars) : Chars :=
  chars.dropGaps.trimEnd

/-- The next character. -/
def peek (chars : Chars) : Option Char :=
  chars.head?.map SourceChar.char

/-- What follows a given word at the start of some text, without regard to the case
of ASCII letters if wanted. -/
def after? (ignoreCase : Bool) : List Char → Chars → Option Chars
  | [], rest => some rest
  | w :: word, c :: rest =>
    if c.char = w || (ignoreCase && c.char.toLower = w) then after? ignoreCase word rest else none
  | _ :: _, [] => none

/-- What follows the first occurrence of a word in some text. -/
def afterFirst? (ignoreCase : Bool) (word : List Char) : Chars → Option Chars
  | [] => after? ignoreCase word []
  | chars@(_ :: rest) =>
    match after? ignoreCase word chars with
    | some found => some found
    | none => afterFirst? ignoreCase word rest

/-- The part of some text that is no longer there in the rest of it. -/
def before (chars rest : Chars) : Chars :=
  chars.take (chars.length - rest.length)

end Chars

end MarkdownFormat
