/-
# Line cursors

Containers are recognised by columns, in which a tab reaches to the next multiple
of four. A cursor stands somewhere in a line and may stand within a tab: the
columns of the tab that are left over count as spaces.
-/

import MarkdownFormat.Reader.Chars

namespace MarkdownFormat

/-- The number of columns that a space or tab at the given column takes up. -/
def columnsOf (column : Nat) (c : Char) : Nat :=
  if c = '\t' then 4 - column % 4 else 1

/-- A place in a line. -/
structure Cursor where
  /-- What follows in the line, its ending included. -/
  rest : Chars
  /-- The column of the next character. -/
  column : Nat
  /-- Columns left over from a tab just before the next character. -/
  owed : Nat

namespace Cursor

/-- The start of a line. -/
def ofLine (line : Chars) : Cursor :=
  ⟨line, 0, 0⟩

/-- The columns taken up by the spaces and tabs at the start of some text. -/
def indentFrom (column : Nat) : Chars → Nat
  | [] => 0
  | c :: rest =>
    if isSpaceChar c.char then
      let columns := columnsOf column c.char
      columns + indentFrom (column + columns) rest
    else 0

/-- The columns from the cursor to the next character that is no space or tab. -/
def indent (cursor : Cursor) : Nat :=
  cursor.owed + indentFrom cursor.column cursor.rest

/-- Moves over spaces and tabs, by at most the given number of columns. -/
def skipFrom (column : Nat) : Nat → Chars → Cursor
  | _, [] => ⟨[], column, 0⟩
  | count, c :: rest =>
    if count = 0 || !isSpaceChar c.char then ⟨c :: rest, column, 0⟩
    else
      let columns := columnsOf column c.char
      if columns ≤ count then skipFrom (column + columns) (count - columns) rest
      else ⟨rest, column + columns, columns - count⟩

/-- Moves over spaces and tabs, by at most the given number of columns. -/
def skip (count : Nat) (cursor : Cursor) : Cursor :=
  if count ≤ cursor.owed then { cursor with owed := cursor.owed - count }
  else skipFrom cursor.column (count - cursor.owed) cursor.rest

/-- Moves over all spaces and tabs. -/
def skipAll (cursor : Cursor) : Cursor :=
  cursor.skip cursor.indent

/-- Moves over some characters that are neither spaces nor tabs. -/
def advance (count : Nat) (cursor : Cursor) : Cursor :=
  ⟨cursor.rest.drop count, cursor.column + count, 0⟩

/-- Whether only blanks follow in the line. -/
def isBlank (cursor : Cursor) : Bool :=
  cursor.rest.isBlank

/-- The next character. -/
def peek (cursor : Cursor) : Option Char :=
  cursor.rest.peek

end Cursor

end MarkdownFormat
