/-
# Rendering blocks

Every block starts on a line of its own, after an empty line if blank lines stood
before it. Containers work through leads: a block quote puts one on all of its
lines, a list item its marker on the first line and as much space on the rest.
Where a style would make a block merge with the text above it, another spelling
is chosen.
-/

import MarkdownFormat.Render.Inline

namespace MarkdownFormat

open RenderM

/-- Whether a node starts on the line right below inline text. -/
def Document.followsText (doc : Document) (id : NodeId) : Bool :=
  !(doc.node id).blankBefore &&
    match (doc.node id).previous with
    | some previous => doc.kind previous = .paragraph || doc.kind previous = .textBlock
    | none => false

namespace Heading

/-- Whether a heading is written with an underline. One without content or of a
level below the second cannot be; one of several lines must be. -/
def isUnderlined (scene : Scene) (id : NodeId) (level : Nat) : Bool :=
  if !scene.document.hasChildren id || 2 < level then false
  else if 1 < (scene.node id).lines.length then true
  else scene.config.headingStyle.isSetext && !scene.document.followsText id

/-- The number of characters in a heading's widest line, at least three. -/
def fullWidth (scene : Scene) (id : NodeId) : Nat :=
  (scene.node id).lines.foldl
    (fun width line => max width (Utf8.decodeLossy (line.bytes scene.source)).length) 3

/-- The line below a heading. -/
def underline (scene : Scene) (id : NodeId) (level : Nat) : List Char :=
  let width := if scene.config.headingStyle = .fullWidthSetext then fullWidth scene id else 3
  List.replicate width (if level = 1 then '=' else '-')

end Heading

namespace CodeFence

/-- The character of a fence: backticks, unless the info string holds one. -/
def char (info : Bytes) : Char :=
  if info.contains 0x60 then '~' else backtick

/-- The length of the fence-like run that a content line starts with. -/
def leadingRun (fence : UInt8) (line : Bytes) : Nat :=
  ((line.dropWhile isBlankByte).takeWhile (· = fence)).length

/-- A fence that is longer than any run that a content line starts with. -/
def fence (info : Bytes) (lines : List Bytes) : List Char :=
  let c := char info
  let longest := (lines.map (leadingRun c.toNat.toUInt8)).foldl max 0
  List.replicate (max 3 (longest + 1)) c

end CodeFence

namespace ListItem

/-- The marker of the next item and the list after it. -/
def nextMarker (frame : ListFrame) : List Char × ListFrame :=
  let marker := [Char.ofNat frame.marker.toNat]
  if frame.ordered then
    (Digits.decimal frame.ordinal ++ marker, { frame with ordinal := frame.ordinal + 1 })
  else (marker, frame)

/-- What stands before the first line of an item. -/
def firstLead (marker : List Char) : Bytes :=
  Utf8.encode (marker ++ [' '])

/-- What stands before the later lines of an item. -/
def laterLead (config : Config) (first : Bytes) : Bytes :=
  List.replicate (config.effectiveNestedListLength * first.length) 0x20

end ListItem

namespace Render

/-- What all blocks have in common: an empty line before a block that had one, and
the end of the block's last line. -/
def separator : RenderFn := fun scene id phase => do
  match phase with
  | .enter =>
    let node := scene.node id
    if node.previous.isSome && node.blankBefore then endLine
  | .exit => flushLine
  return .proceed

/-- A block that shows only its children. -/
def transparent : RenderFn := fun _ _ _ =>
  return .proceed

/-- A greater-than sign before every line. -/
def blockquote : RenderFn := fun _ _ phase => do
  match phase with
  | .enter => pushLead (Utf8.encode ['>', ' ']) .all
  | .exit => popLead
  return .proceed

/-- Number signs before a heading and, in one style, behind it. -/
def atxHeading (scene : Scene) (id : NodeId) (level : Nat) : Phase → RenderM Unit
  | .enter => do
    putText (List.replicate level '#')
    if scene.document.hasChildren id then putText [' ']
  | .exit =>
    if scene.config.headingStyle = .atxSurround then
      putText (' ' :: List.replicate level '#')
    else pure ()

/-- The underline of a heading. -/
def setextHeading (scene : Scene) (id : NodeId) (level : Nat) : Phase → RenderM Unit
  | .enter => pure ()
  | .exit => do
    endLine
    putText (Heading.underline scene id level)

/-- A heading, underlined or with number signs. -/
def heading : RenderFn := fun scene id phase => do
  match (scene.node id).element with
  | .heading level =>
    if Heading.isUnderlined scene id level then setextHeading scene id level phase
    else atxHeading scene id level phase
  | _ => pure ()
  return .proceed

/-- A thematic break. Dashes below text would underline it, so they give way to
asterisks there. -/
def thematicBreak : RenderFn := fun scene id phase => do
  match phase with
  | .enter =>
    let style := scene.config.breakStyle
    let style := if style = .dashed && scene.document.followsText id then .starred else style
    putText (List.replicate scene.config.effectiveBreakLength style.char)
  | .exit => pure ()
  return .proceed

/-- Content lines, each on a line of its own. -/
def contentLines (scene : Scene) (id : NodeId) : RenderM Unit :=
  (scene.node id).lines.forM fun line => do
    put (line.bytes scene.source)
    flushLine

/-- Indented code. -/
def codeBlock : RenderFn := fun scene id phase => do
  match phase with
  | .enter =>
    pushLead (Utf8.ofString scene.config.indentStyle.unit) .all
    contentLines scene id
  | .exit => popLead
  return .proceed

/-- Code between fences. -/
def fencedCodeBlock : RenderFn := fun scene id phase => do
  match (scene.node id).element with
  | .fencedCodeBlock info =>
    let info := (info.map (·.bytes scene.source)).getD []
    putText (CodeFence.fence info ((scene.node id).lines.map (·.bytes scene.source)))
    match phase with
    | .enter =>
      put info
      flushLine
      contentLines scene id
    | .exit => pure ()
  | _ => pure ()
  return .proceed

/-- Raw HTML with its closing line. -/
def htmlBlock : RenderFn := fun scene id phase => do
  match phase, (scene.node id).element with
  | .enter, _ => contentLines scene id
  | .exit, .htmlBlock (some closure) =>
    put (closure.bytes scene.source)
    flushLine
  | _, _ => pure ()
  return .proceed

/-- Keeps track of the list that items are in. -/
def list : RenderFn := fun scene id phase => do
  match phase with
  | .enter =>
    match (scene.node id).element with
    | .list marker ordered start => pushList ⟨marker, ordered, start⟩
    | _ => pushList ⟨0x2D, false, 1⟩
  | .exit => discard popList
  return .proceed

/-- The marker of the item that is entered, counting it in its list. -/
def itemMarker : RenderM (List Char) := do
  let state ← get
  match state.lists with
  | frame :: lists =>
    let (marker, frame) := ListItem.nextMarker frame
    set { state with lists := frame :: lists }
    return marker
  | [] =>
    warn .itemOutsideList
    return ['-']

/-- A marker before the first line of an item, space before the rest. An item
without content still has its marker. -/
def listItem : RenderFn := fun scene id phase => do
  match phase with
  | .enter =>
    let first := ListItem.firstLead (← itemMarker)
    pushLead first (.between 0 0)
    pushLead (ListItem.laterLead scene.config first) (.starting 1)
  | .exit =>
    if !scene.document.hasChildren id then endLine
    popLead
    popLead
  return .proceed

end Render

end MarkdownFormat
