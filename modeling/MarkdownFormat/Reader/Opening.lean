/-
# Line openings

What the start of a line can open: a block quote, a list item, a heading, a code
fence, a thematic break. Each reader looks at the text after up to three columns of
indentation.
-/

import MarkdownFormat.Reader.Block

namespace MarkdownFormat.Opening

/-- The number of times a character is repeated at the start of some text. -/
def runLength (c : Char) (chars : Chars) : Nat :=
  (chars.takeWhile fun d => d.char = c).length

/-- What follows the marker of a block quote, with the space that belongs to it. -/
def afterQuoteMarker? (cursor : Cursor) : Option Cursor :=
  if cursor.indent ≤ 3 then
    let inner := cursor.skipAll
    if inner.peek = some '>' then some ((inner.advance 1).skip 1) else none
  else none

/-- Whether a line is a thematic break: three or more equal characters, with any
spaces between them. -/
def isRule (chars : Chars) : Bool :=
  let marks := Chars.text (chars.filter fun c => !isGap c.char)
  3 ≤ marks.length && (marks.all (· = '-') || marks.all (· = '*') || marks.all (· = '_'))

/-- The level of a heading with number signs, and what follows the signs. -/
def heading? (chars : Chars) : Option (Nat × Chars) :=
  let level := runLength '#' chars
  let rest := chars.drop level
  if 1 ≤ level && level ≤ 6 && (Chars.peek rest).all isGap then some (level, rest) else none

/-- The text of a heading line after its opening number signs, and where a closing
sequence was cut off. There must be a space before such a sequence, unless it is all
there is. A parenthesis or an angle bracket takes in the cut behind it. -/
def headingText (chars : Chars) : Chars × Option Nat :=
  let text := chars.trim
  let inner := dropTrailing (fun c => c.char = '#') text
  if inner.length = text.length then (text, none)
  else match inner.getLast? with
    | none => ([], none)
    | some last =>
      if last.char = ' ' then
        let kept := dropTrailing (fun c => c.char = ' ') inner
        let cut := kept.getLast?.filter fun c => c.char ≠ ')' && c.char ≠ '>'
        (kept, cut.map SourceChar.stop)
      else (text, none)

/-- The level that an underline gives to the paragraph above it. -/
def underline? (chars : Chars) : Option Nat :=
  let marks := Chars.text chars.trimEnd
  if marks = [] then none
  else if marks.all (· = '=') then some 1
  else if marks.all (· = '-') then some 2
  else none

/-- The character, length and info string of an opening code fence. -/
def fence? (chars : Chars) : Option (Char × Nat × Chars) :=
  match chars with
  | [] => none
  | c :: _ =>
    let length := runLength c.char chars
    let info := Chars.trim (chars.drop length)
    let hasBacktick := info.any fun d => d.char = '\x60'
    if 3 ≤ length && (c.char = '~' || (c.char = '\x60' && !hasBacktick)) then
      some (c.char, length, info)
    else none

/-- Whether a line closes a code block that was opened by the given fence. -/
def closesFence (fence : Char) (length : Nat) (cursor : Cursor) : Bool :=
  let chars := cursor.skipAll.rest
  let run := runLength fence chars
  cursor.indent ≤ 3 && length ≤ run && Chars.isBlank (chars.drop run)

/-- A list marker at the start of some text and its width. -/
def listMarker? (chars : Chars) : Option (ListMarker × Nat) :=
  let digits := chars.takeWhile fun c => c.char.isDigit
  let marker? : Option (ListMarker × Nat) :=
    match chars.drop digits.length with
    | c :: _ =>
      if digits = [] then
        if c.char = '-' || c.char = '+' || c.char = '*' then some (⟨c.char, none⟩, 1) else none
      else if digits.length ≤ 9 && (c.char = '.' || c.char = ')') then
        some (⟨c.char, some (Digits.number 10 (Chars.text digits))⟩, digits.length + 1)
      else none
    | [] => none
  marker?.filter fun (_, width) => (Chars.peek (chars.drop width)).all isGap

/-- An item that a line opens: its marker, the indentation of its content, and where
its content begins. -/
structure ItemOpening where
  marker : ListMarker
  indent : Nat
  content : Cursor

/-- The item that a line opens. An item without content on its first line, or one
with indented code there, has its content one column behind the marker. -/
def item? (cursor : Cursor) : Option ItemOpening :=
  let outer := cursor.indent
  let inner := cursor.skipAll
  match listMarker? inner.rest with
  | none => none
  | some (marker, width) =>
    let after := inner.advance width
    let spaces := after.indent
    let used := if after.isBlank || 4 < spaces then 1 else spaces
    some ⟨marker, outer + width + used, after.skip used⟩

end MarkdownFormat.Opening
