/-
# Lines

A line ends with a line feed. A byte string is a sequence of complete lines and
what follows the last of them; both directions of that view are here.
-/

import MarkdownFormat.Text.Blank

namespace MarkdownFormat

/-- The byte that ends a line. -/
def newline : UInt8 := 0x0A

/-- The complete lines of a byte string, without their endings, and what follows
the last of them. -/
def splitLines : Bytes → List Bytes × Bytes
  | [] => ([], [])
  | byte :: rest =>
    let (lines, tail) := splitLines rest
    if byte = newline then ([] :: lines, tail)
    else match lines with
      | [] => ([], byte :: tail)
      | line :: lines => ((byte :: line) :: lines, tail)

/-- Puts lines and what follows them together again. -/
def joinLines (lines : List Bytes) (tail : Bytes) : Bytes :=
  lines.flatMap (· ++ [newline]) ++ tail

/-- Cuts a list after each element that satisfies `p`. No part is empty. -/
def cutAfter {α : Type} (p : α → Bool) : List α → List (List α)
  | [] => []
  | x :: rest =>
    if p x then [x] :: cutAfter p rest
    else match cutAfter p rest with
      | [] => [[x]]
      | part :: parts => (x :: part) :: parts

end MarkdownFormat
