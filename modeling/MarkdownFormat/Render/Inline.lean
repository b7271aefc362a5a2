/-
# Rendering inlines

Inline nodes are written into the current line. Spellings are chosen so that the
text between them cannot be mistaken for their end: a code span gets a fence that
its content does not hold, and a link destination is escaped or put between
angle brackets where its plain form would break off.
-/

import MarkdownFormat.Render.Context

namespace MarkdownFormat

open RenderM

/-- The character of code fences and code spans. -/
def backtick : Char := '\x60'

namespace CodeSpan

/-- Lengths of the maximal backtick runs of a text that continues a run of the
given length. -/
def runLengthsFrom (run : Nat) : List Char → List Nat
  | [] => if run = 0 then [] else [run]
  | c :: rest =>
    if c = backtick then runLengthsFrom (run + 1) rest
    else if run = 0 then runLengthsFrom 0 rest
    else run :: runLengthsFrom 0 rest

/-- The least number from `start` on that is not in the list. The list has fewer
than `fuel` members from `start` on. -/
def leastAbsent (taken : List Nat) : Nat → Nat → Nat
  | 0, start => start
  | fuel + 1, start =>
    if taken.contains start then leastAbsent taken fuel (start + 1) else start

/-- The shortest fence that does not occur in a text as a run of its own. -/
def fenceLength (content : List Char) : Nat :=
  let runs := runLengthsFrom 0 content
  leastAbsent runs runs.length 1

/-- Whether a text must be kept apart from its fence: because it touches it with a
backtick, or because a blank at each end would be taken for such a separation. -/
def needsPadding (content : List Char) : Bool :=
  match content.head?, content.getLast? with
  | some first, some last =>
    (isBlank first && isBlank last && !content.all isBlank)
      || first = backtick || last = backtick
  | _, _ => false

/-- How a code span with the given content is set off. -/
def style (content : List Char) : CodeSpanStyle :=
  ⟨fenceLength content, needsPadding content⟩

/-- The bytes of the text children of a code span. -/
def content (scene : Scene) (id : NodeId) : Bytes :=
  (scene.document.children id).flatMap fun child =>
    match (scene.node child).element with
    | .text value _ => value.bytes scene.source
    | _ => []

/-- The bytes in front of the content; those behind it are the same in reverse. -/
def opening (style : CodeSpanStyle) : List Char :=
  List.replicate style.fence backtick ++ if style.padded then [' '] else []

/-- The bytes behind the content. -/
def closing (style : CodeSpanStyle) : List Char :=
  (if style.padded then [' '] else []) ++ List.replicate style.fence backtick

end CodeSpan

namespace LinkTarget

/-- Puts a backslash before each of the given characters. -/
def escapeAll (special : List Char) (text : List Char) : List Char :=
  text.flatMap fun c => if special.contains c then ['\\', c] else [c]

/-- ASCII blanks and controls, which a plain destination cannot hold. -/
def needsBrackets (c : Char) : Bool :=
  c.toNat ≤ 0x20 || c.toNat = 0x7F

/-- Whether the parentheses of a text are balanced, given how many are open. From none on, there
are never more open than the text has characters, so that 32 bits with a sign hold their number
for a text of less than `2 ^ 31` characters. -/
def balancedFrom (depth : Nat) : List Char → Bool
  | [] => depth = 0
  | '(' :: rest => balancedFrom (depth + 1) rest
  | ')' :: rest => depth ≠ 0 && balancedFrom (depth - 1) rest
  | _ :: rest => balancedFrom depth rest

/-- A link destination as it is written. -/
def destination (text : List Char) : List Char :=
  if text.any needsBrackets then '<' :: escapeAll ['<', '>'] text ++ ['>']
  else if balancedFrom 0 text then text
  else escapeAll ['(', ')'] text

/-- A link title as it is written, with the space before it. -/
def title (text : List Char) : List Char :=
  if text = [] then []
  else [' ', '"'] ++ escapeAll ['"'] text ++ ['"']

/-- What follows the text of a link. -/
def tail (target heading : String) : List Char :=
  [']', '('] ++ destination target.toList ++ title heading.toList ++ [')']

end LinkTarget

namespace Render

/-- Text inside a code span, which cannot hold a line ending. -/
def joinedLines (bytes : Bytes) : Bytes :=
  bytes.map fun byte => if byte = newline then 0x20 else byte

/-- A text and the line break after it. A hard break is written as a backslash,
since trailing spaces would be cut. -/
def text : RenderFn := fun scene id phase => do
  match phase, (scene.node id).element with
  | .enter, .text value breaks =>
    let bytes := value.bytes scene.source
    put (if (← get).codeSpan.isSome then joinedLines bytes else bytes)
    if breaks.hard then
      putText ['\\']
      endLine
    else if breaks.soft then
      endLine
  | _, _ => pure ()
  return .proceed

/-- Asterisks on both sides, as many as the level. -/
def emphasis : RenderFn := fun scene id _ => do
  match (scene.node id).element with
  | .emphasis level => putText (List.replicate level '*')
  | _ => pure ()
  return .proceed

/-- Backticks around a code span. -/
def codeSpan : RenderFn := fun scene id phase => do
  match phase with
  | .enter =>
    let style := CodeSpan.style (Utf8.decodeLossy (CodeSpan.content scene id))
    setCodeSpan (some style)
    putText (CodeSpan.opening style)
  | .exit =>
    let style := (← get).codeSpan.getD {}
    putText (CodeSpan.closing style)
    setCodeSpan none
  return .proceed

/-- A link with its target behind the text. -/
def link : RenderFn := fun scene id phase => do
  match phase, (scene.node id).element with
  | .enter, .link _ _ => putText ['[']
  | .exit, .link destination title => putText (LinkTarget.tail destination title)
  | _, _ => pure ()
  return .proceed

/-- An image: a link behind an exclamation mark. -/
def image : RenderFn := fun scene id phase => do
  match phase, (scene.node id).element with
  | .enter, .image _ _ => putText ['!', '[']
  | .exit, .image destination title => putText (LinkTarget.tail destination title)
  | _, _ => pure ()
  return .proceed

/-- An address between angle brackets. -/
def autoLink : RenderFn := fun scene id phase => do
  match phase with
  | .enter =>
    putText ['<']
    match (scene.node id).element with
    | .autoLink url => put (url.bytes scene.source)
    | _ => pure ()
  | .exit => putText ['>']
  return .proceed

/-- Raw HTML, written as it is. -/
def rawHtml : RenderFn := fun scene id phase => do
  match phase, (scene.node id).element with
  | .enter, .rawHtml segments => segments.forM fun value => put (value.bytes scene.source)
  | _, _ => pure ()
  return .proceed

/-- Tildes on both sides of struck-out text. -/
def strikethrough : RenderFn := fun _ _ _ => do
  putText ['~', '~']
  return .proceed

end Render

end MarkdownFormat
