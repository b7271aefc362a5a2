/-
# Delimiter runs

Asterisks, underscores and tildes come in runs. A run may open emphasis, close it,
or both, which depends on the characters around it. When a text has been read, the
runs in it are paired: each closing run, from left to right, takes the nearest
matching opening run before it. What is left of a run is text.
-/

import MarkdownFormat.Event.Basic
import MarkdownFormat.Text.Blank
import MarkdownFormat.Text.Punctuation

namespace MarkdownFormat

/-- A run of equal delimiters. -/
structure Run where
  char : Char
  /-- The length that the run was written with. -/
  length : Nat
  /-- The delimiters that are left. -/
  count : Nat
  /-- Where the delimiters that are left start. -/
  start : Nat
  opens : Bool
  closes : Bool

/-- A part of inline text. -/
inductive Inline
  /-- Something that has been read completely. -/
  | finished (events : List PlacedEvent)
  | delimiters (run : Run)

namespace Run

/-- A run between two characters. Whether it can open or close depends on the side
on which it touches text: punctuation counts as text where the other side is blank
or punctuation too. An asterisk may stand within a word, an underscore may not. -/
def between (before after char : Char) (length start : Nat) : Run :=
  let leftFlanking := !isBlank after &&
    (!isPunctuation after || isBlank before || isPunctuation before)
  let rightFlanking := !isBlank before &&
    (!isPunctuation before || isBlank after || isPunctuation after)
  let withinWords := char = '*' || (char = '~' && 1 < length)
  let opens := leftFlanking && (withinWords || !rightFlanking || isPunctuation before)
  let closes := rightFlanking && (withinWords || !leftFlanking || isPunctuation after)
  ⟨char, length, length, start, opens, closes⟩

/-- Whether an opening run and a closing run belong together. Where one of them can
do both, their lengths must not add up to a multiple of three, unless both are
multiples of three. Tildes match runs of their own length only. -/
def pairs (opening closing : Run) : Bool :=
  opening.opens && opening.char = closing.char &&
    (closing.char ≠ '~' || opening.length = closing.length) &&
    ((!opening.closes && !closing.opens) || (opening.length + closing.length) % 3 ≠ 0
      || closing.length % 3 = 0)

/-- The number of delimiters that one pairing uses up on either side. -/
def used (opening closing : Run) : Nat :=
  if closing.char = '~' then closing.count
  else if 2 ≤ opening.count && 2 ≤ closing.count then 2 else 1

/-- What a pairing stands for. -/
def tag (char : Char) (used : Nat) : Tag :=
  if char = '~' then .strikethrough else if used = 2 then .strong else .emphasis

/-- The events of a run that is text. -/
def textEvents (run : Run) : List PlacedEvent :=
  if run.count = 0 then []
  else
    [⟨.text (String.ofList (List.replicate run.count run.char)),
      ⟨run.start, run.start + run.count⟩⟩]

end Run

namespace Inline

/-- The events of a part in which nothing is paired any more. -/
def toEvents : Inline → List PlacedEvent
  | .finished events => events
  | .delimiters run => run.textEvents

/-- The nearest run before a closing one that matches it, with the parts between
them and the parts before both, the latest first. -/
def opener? (closing : Run) : List Inline → Option (List Inline × Run × List Inline)
  | [] => none
  | part :: parts =>
    let next := (opener? closing parts).map fun (inner, opening, outer) =>
      (part :: inner, opening, outer)
    match part with
    | .delimiters run => if run.pairs closing then some ([], run, parts) else next
    | .finished _ => next

/-- The events of a construct with the given content. -/
def wrap (tag : Tag) (range : Segment) (inner : List PlacedEvent) : List PlacedEvent :=
  ⟨.opened tag, range⟩ :: inner ++ [⟨.closed tag.endTag, range⟩]

/-- Adds a run behind some parts, the latest first, and pairs it with runs among
them as often as it has delimiters to spare. -/
def addRun : Nat → List Inline → Run → List Inline
  | 0, parts, _ => parts
  | fuel + 1, parts, run =>
    if run.count = 0 then parts
    else match if run.closes then opener? run parts else none with
      | none => .delimiters run :: parts
      | some (inner, opening, outer) =>
        let used := opening.used run
        let left := { opening with count := opening.count - used }
        let range : Segment := ⟨left.start + left.count, run.start + used⟩
        let events := wrap (Run.tag run.char used) range (inner.reverse.flatMap toEvents)
        let outer := if left.count = 0 then outer else .delimiters left :: outer
        addRun fuel (.finished events :: outer)
          { run with count := run.count - used, start := run.start + used }

/-- Adds a part behind some others, the latest first. -/
def addPart (parts : List Inline) : Inline → List Inline
  | .delimiters run => addRun (run.count + 1) parts run
  | part => part :: parts

/-- The events of a text with all its runs paired. -/
def resolve (parts : List Inline) : List PlacedEvent :=
  (parts.foldl addPart []).reverse.flatMap toEvents

end Inline

end MarkdownFormat
