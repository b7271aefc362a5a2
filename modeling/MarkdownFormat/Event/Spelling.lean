/-
# Spellings in the source

Some facts about a document are read off the source rather than the events: the
marker of a list, the content lines of a heading, whether a blank line separates
two blocks, and whether a text starts with an escaped character. Container
markers can stand anywhere in front, so greater-than signs count as blanks at the
start of a line.

A range that does not lie within the source has no spelling; then the answer is
`none`.
-/

import MarkdownFormat.Text.Lines
import MarkdownFormat.Text.Punctuation
import MarkdownFormat.Value

namespace MarkdownFormat.Spelling

/-- Space or tab. -/
def isSpace (byte : UInt8) : Bool :=
  byte == 0x20 || byte == 0x09

/-- Space, tab or the marker of a block quote. -/
def isQuoteSpace (byte : UInt8) : Bool :=
  isSpace byte || byte == 0x3E

/-- A blank or the marker of a block quote. -/
def isQuoteBlank (byte : UInt8) : Bool :=
  isBlankByte byte || byte == 0x3E

/-- Whether a byte is a decimal digit. -/
def isDigit (byte : UInt8) : Bool :=
  0x30 ≤ byte && byte ≤ 0x39

/-- Whether a complete line between two offsets is blank once the markers of
block quotes are taken away. The rest of a line that begins before the first
offset is not a line of its own. -/
def hasBlankLine (source : Bytes) (start stop : Nat) : Bool :=
  start < stop && stop ≤ source.length &&
    let lines := (splitLines (Segment.bytes source ⟨start, stop⟩)).1
    let atLineStart := start = 0 || source[start - 1]? = some newline
    (if atLineStart then lines else lines.drop 1).any (·.all isQuoteBlank)

/-- The marker of the list that starts at an offset: its bullet, or what follows
its first number. -/
def listMarker (source : Bytes) (start : Nat) (ordered : Bool) : UInt8 :=
  let rest := (source.drop start).dropWhile isQuoteBlank
  if ordered then
    match rest.dropWhile isDigit with
    | 0x29 :: _ => 0x29
    | _ => 0x2E
  else match rest with
    | 0x2D :: _ => 0x2D
    | 0x2B :: _ => 0x2B
    | 0x2A :: _ => 0x2A
    | _ => 0x2D

/-- Where a text begins that is reported without the backslash of an escape at its
start. -/
def textStart? (source : Bytes) (start : Nat) : Option Nat :=
  match start with
  | 0 => some 0
  | before + 1 =>
    match source[before]? with
    | none => none
    | some byte =>
      if byte == 0x5C && source[start]?.any isPunctuationByte then some before else some start

/-- The bytes of a range that lies within the source. -/
def slice? (source : Bytes) (range : Segment) : Option Bytes :=
  if range.start ≤ range.stop ∧ range.stop ≤ source.length then some (range.bytes source)
  else none

/-- The text of a heading line between its number signs. -/
def atxContent? (source : Bytes) (line : Segment) : Option Segment :=
  let bytes := line.bytes source
  let afterIndent := bytes.dropWhile (· == 0x20)
  let content := (afterIndent.dropWhile (· == 0x23)).dropWhile isSpace
  let start := bytes.length - content.length
  let closing := (content.reverse.takeWhile (· == 0x23)).length
  let unclosed := content.take (content.length - closing)
  let content := if unclosed.getLast?.all isSpace then unclosed else content
  let text := trimBytesEnd content
  if text = [] then none
  else some ⟨line.start + start, line.start + start + text.length⟩

/-- Whether a line consists of an underline. -/
def isUnderline (line : Bytes) : Bool :=
  let marks := (trimBytes line).dropWhile isQuoteSpace
  marks ≠ [] && (marks.all (· == 0x3D) || marks.all (· == 0x2D))

/-- The nonblank lines from an offset on, without trailing blanks. -/
def contentSegments (offset : Nat) : List Bytes → List Segment
  | [] => []
  | line :: rest =>
    let length := (trimBytesEnd line).length
    let segments := contentSegments (offset + line.length) rest
    if length = 0 then segments else ⟨offset, offset + length⟩ :: segments

/-- A line of an underlined heading without what stands in front of its text. -/
def withoutIndent (source : Bytes) (isFirst : Bool) (line : Segment) : Segment :=
  let indent := (line.bytes source).takeWhile (if isFirst then isSpace else isQuoteSpace)
  line.withStart (line.start + indent.length)

/-- The content lines of a heading. If there are several lines and the last of
them is an underline, they are all lines but that one; else the first line is one
with number signs. -/
def headingLines? (source : Bytes) (range : Segment) : Option (List Segment) :=
  (slice? source range).map fun bytes =>
    match contentSegments range.start (cutAfter (· == newline) bytes) with
    | [] => []
    | first :: rest =>
      if rest.getLast?.any fun last => isUnderline (last.bytes source) then
        withoutIndent source true first :: rest.dropLast.map (withoutIndent source false)
      else (atxContent? source first).toList

end MarkdownFormat.Spelling
