/-
# Scanners

A scanner reads something from the front of a text and leaves the rest, or refuses
the text. Alternatives are tried on the same text, and a repetition ends where its
scanner refuses.
-/

import MarkdownFormat.Text.Blank

namespace MarkdownFormat.Toml

/-- Reads a value from the front of a text, or refuses it. -/
abbrev Scanner := StateT (List Char) Option

namespace Scanner

/-- One character of a class. -/
def one (p : Char → Bool) : Scanner Char
  | [] => none
  | c :: rest => if p c then some (c, rest) else none

/-- The given character. -/
def symbol (wanted : Char) : Scanner Unit := do
  let _ ← one (· = wanted)

/-- The given characters. -/
def word (wanted : String) : Scanner Unit :=
  wanted.toList.forM symbol

/-- As many characters of a class as there are. -/
def run (p : Char → Bool) : Scanner (List Char)
  | text => some (text.takeWhile p, text.dropWhile p)

/-- Succeeds at the end of the text. -/
def atEnd : Scanner Unit
  | [] => some ((), [])
  | _ :: _ => none

/-- At most a given number of repetitions. -/
def upTo {α : Type} (scan : Scanner α) : Nat → Scanner (List α)
  | 0 => pure []
  | count + 1 => (do
    let first ← scan
    let rest ← upTo scan count
    pure (first :: rest)) <|> pure []

/-- As many repetitions as possible. A repetition reads something, so there are no
more of them than characters. -/
def many {α : Type} (scan : Scanner α) : Scanner (List α)
  | text => upTo scan text.length text

/-- One or more repetitions with a separator between them. -/
def separated {α : Type} (separator : Char) (scan : Scanner α) : Scanner (List α) := do
  let first ← scan
  let rest ← many (do symbol separator; scan)
  pure (first :: rest)

/-- Exactly a given number of characters of a class. -/
def exactly (p : Char → Bool) : Nat → Scanner (List Char)
  | 0 => pure []
  | count + 1 => do
    let first ← one p
    let rest ← exactly p count
    pure (first :: rest)

/-- Nothing, if a condition holds. -/
def check (condition : Bool) : Scanner Unit :=
  if condition then pure () else failure

/-- Spaces and tabs. -/
def spaces : Scanner Unit := do
  let _ ← run isSpaceChar

/-- A line ending, which is a line feed with or without a carriage return. -/
def lineEnd : Scanner Unit :=
  symbol '\n' <|> word "\r\n"

/-- Whether a character may stand in a text as itself: any but the controls, of
which the tab is allowed. -/
def isPlain (c : Char) : Bool :=
  c = '\t' || (' ' ≤ c && c ≠ '\x7f')

/-- A comment, up to the end of its line. -/
def comment : Scanner Unit := do
  symbol '#'
  let _ ← run isPlain

/-- Spaces, comments and line endings, in any number. -/
def gap : Scanner Unit := do
  let _ ← many (do
    spaces
    let _ ← optional comment
    lineEnd)
  spaces

/-- What may follow a statement on its line. -/
def lineRest : Scanner Unit := do
  spaces
  let _ ← optional comment
  lineEnd <|> atEnd

end Scanner

end MarkdownFormat.Toml
