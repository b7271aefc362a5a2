/-
# Block structure

The lines of a source are sorted into blocks. A block is a leaf with lines of its
own or a container of other blocks. Lists are loose if a blank line separates two
of their items or two blocks directly inside one of them; for that purpose, blocks
keep the numbers of their first and last line.
-/

import MarkdownFormat.Reader.Cursor
import MarkdownFormat.Reader.Html
import MarkdownFormat.Reader.Target
import MarkdownFormat.Value

namespace MarkdownFormat

/-- Where a block stands: its source range and its first and last line. -/
structure Extent where
  range : Segment
  firstLine : Nat
  lastLine : Nat
  deriving DecidableEq, Repr

/-- A line of a leaf, without what belongs to the containers around it. -/
structure LeafLine where
  /-- Spaces left over from a tab that a container has used in part. -/
  padding : Nat
  chars : Chars
  deriving DecidableEq, Repr

/-- A part of the block structure. -/
inductive Block
  | paragraph (extent : Extent) (content : Chars)
  /-- A heading. A closing sequence of number signs leaves the place where it was cut
  off. -/
  | heading (extent : Extent) (level : Nat) (content : Chars) (cut : Option Nat)
  | rule (extent : Extent)
  | indentedCode (extent : Extent) (lines : List LeafLine)
  | fencedCode (extent : Extent) (info : Chars) (lines : List LeafLine)
  | html (extent : Extent) (lines : List LeafLine)
  /-- Link definitions, which leave nothing but their lines. -/
  | definitions (extent : Extent)
  | quote (extent : Extent) (blocks : List Block)
  | list (extent : Extent) (start : Option Nat) (tight : Bool) (items : List Block)
  | item (extent : Extent) (blocks : List Block)

namespace Block

/-- Where a block stands. -/
def extent : Block → Extent
  | .paragraph extent _ | .heading extent _ _ _ | .rule extent | .indentedCode extent _
  | .fencedCode extent _ _ | .html extent _ | .definitions extent | .quote extent _
  | .list extent _ _ _ | .item extent _ => extent

/-- The blocks directly inside a container. -/
def children : Block → List Block
  | .quote _ blocks | .list _ _ _ blocks | .item _ blocks => blocks
  | _ => []

/-- Whether each block begins on the line below the end of the one before it. -/
def contiguous : List Block → Bool
  | [] | [_] => true
  | first :: second :: rest =>
    first.extent.lastLine + 1 = second.extent.firstLine && contiguous (second :: rest)

/-- Whether the items of a list are not set apart by blank lines, nor the blocks
directly inside each of them. -/
def isTight (items : List Block) : Bool :=
  contiguous items && items.all fun item => contiguous item.children

end Block

/-- What makes items belong to one list: the bullet, or what follows the number. -/
structure ListMarker where
  /-- The bullet, or what follows the number. -/
  sign : Char
  /-- The number of an ordered item. -/
  number : Option Nat
  deriving DecidableEq, Repr

/-- An open container. -/
inductive Container
  | root
  | quote
  | list (marker : ListMarker)
  /-- An item, the content of which is indented by the given number of columns. -/
  | item (indent : Nat)
  /-- An item that began with a blank line after its marker. It has no content and
  ended before that line, at the given offset. -/
  | barrenItem (stop : Nat)
  deriving DecidableEq, Repr

/-- An open container with what has been put into it. -/
structure Frame where
  container : Container
  start : Nat
  firstLine : Nat
  /-- The blocks inside, the latest first. -/
  blocks : List Block := []

/-- An open leaf. -/
inductive LeafKind
  | paragraph
  | indentedCode
  | fencedCode (fence : Char) (length indent : Nat) (info : Chars)
  | html (ending : Html.Ending)

/-- An open leaf with its lines. -/
structure Leaf where
  kind : LeafKind
  start : Nat
  firstLine : Nat
  /-- Where its last line stops. -/
  stop : Nat
  /-- The lines so far, the latest first. -/
  lines : List LeafLine

/-- The block structure as far as it has been read. -/
structure BlockReader where
  /-- The open containers, the innermost first. The last is the root. -/
  frames : List Frame := [⟨.root, 0, 1, []⟩]
  leaf : Option Leaf := none
  /-- The link definitions met so far, the latest first. -/
  definitions : List Definition := []
  /-- The number of the current line. -/
  line : Nat := 1
  /-- The offset at which the current line starts. -/
  offset : Nat := 0

namespace BlockReader

variable (reader : BlockReader)

/-- Whether the open leaf is a paragraph. -/
def inParagraph : Bool :=
  match reader.leaf with
  | some ⟨.paragraph, _, _, _, _⟩ => true
  | _ => false

/-- Puts a block into the innermost container. -/
def add (block : Block) : BlockReader :=
  match reader.frames with
  | frame :: frames =>
    { reader with frames := { frame with blocks := block :: frame.blocks } :: frames }
  | [] => reader

/-- Puts a block of the current line into the innermost container. -/
def addLine (start stop : Nat) (make : Extent → Block) : BlockReader :=
  reader.add (make ⟨⟨start, stop⟩, reader.line, reader.line⟩)

/-- The blocks of a finished paragraph: its definitions and what follows them. An
underline makes the rest a heading, given by its level. -/
def paragraphBlocks (leaf : Leaf) (lastLine stop : Nat) (level : Option Nat) :
    List Definition × List Block :=
  let content : Chars := leaf.lines.reverse.flatMap LeafLine.chars
  let (definitions, rest) := Definition.readAll content
  let text := rest.dropGaps
  let used := (content.before rest).countP fun c => isLineEnd c.char
  let first := leaf.firstLine + used
  let definitionBlocks :=
    if definitions = [] then []
    else [Block.definitions ⟨⟨leaf.start, rest.startOr stop⟩, leaf.firstLine, first - 1⟩]
  let textBlocks :=
    if text = [] then []
    else
      let extent := ⟨⟨text.startOr stop, stop⟩, first, lastLine⟩
      match level with
      | some level => [Block.heading extent level text.trimEnd none]
      | none => [Block.paragraph extent text.trimEnd]
  (definitions, definitionBlocks ++ textBlocks)

/-- Lines without the blank ones at the end. -/
def dropBlankLines (lines : List LeafLine) : List LeafLine :=
  dropTrailing (fun line => line.chars.isBlank) lines

/-- The end of the last of some lines. -/
def stopOfLines (lines : List LeafLine) (start : Nat) : Nat :=
  match lines.getLast? with
  | some line => line.chars.stopOr start
  | none => start

/-- Closes the open leaf, which reaches to the given line and offset. -/
def closeLeafAt (lastLine stop : Nat) : BlockReader :=
  match reader.leaf with
  | none => reader
  | some leaf =>
    let reader := { reader with leaf := none }
    let lines := leaf.lines.reverse
    let extent := ⟨⟨leaf.start, stop⟩, leaf.firstLine, lastLine⟩
    match leaf.kind with
    | .paragraph =>
      let (definitions, blocks) := paragraphBlocks leaf lastLine stop none
      let reader := { reader with definitions := definitions.reverse ++ reader.definitions }
      blocks.foldl add reader
    | .indentedCode =>
      let lines := dropBlankLines lines
      let range := ⟨leaf.start, stopOfLines lines leaf.start⟩
      let lastLine := leaf.firstLine + lines.length - 1
      reader.add (.indentedCode ⟨range, leaf.firstLine, lastLine⟩ lines)
    | .fencedCode _ _ _ info => reader.add (.fencedCode extent info lines)
    | .html _ => reader.add (.html extent lines)

/-- Closes the open leaf before the current line. -/
def closeLeaf : BlockReader :=
  match reader.leaf with
  | some leaf => reader.closeLeafAt (reader.line - 1) leaf.stop
  | none => reader

/-- The block of a container that ends at the given offset. -/
def blockOfFrame (frame : Frame) (stop : Nat) : Block :=
  let blocks := frame.blocks.reverse
  let lastOfBlocks := match frame.blocks with
    | block :: _ => block.extent.lastLine
    | [] => frame.firstLine
  let extent (lastLine : Nat) : Extent := ⟨⟨frame.start, stop⟩, frame.firstLine, lastLine⟩
  match frame.container with
  | .list marker => .list (extent lastOfBlocks) marker.number (Block.isTight blocks) blocks
  | .item _ | .barrenItem _ => .item (extent lastOfBlocks) blocks
  | .quote | .root => .quote (extent (reader.line - 1)) blocks

/-- Closes the innermost container at the given offset; the root stays open. -/
def closeFrame (stop : Nat) : BlockReader :=
  match reader.frames with
  | frame :: frames@(_ :: _) => { reader with frames }.add (reader.blockOfFrame frame stop)
  | _ => reader

/-- Closes the given number of containers before the current line. -/
def closeFrames : Nat → BlockReader → BlockReader
  | 0, reader => reader
  | count + 1, reader => closeFrames count (reader.closeFrame reader.offset)

/-- Closes the open leaf and all but the outermost containers. Where nothing but an
item without content is closed, it keeps its own end. -/
def closeTo (kept : Nat) : BlockReader :=
  let reader := reader.closeLeaf
  match reader.frames with
  | ⟨.barrenItem stop, _, _, _⟩ :: outer =>
    if outer.length = kept then reader.closeFrame stop
    else closeFrames (reader.frames.length - kept) reader
  | frames => closeFrames (frames.length - kept) reader

/-- Takes note of a blank line. After it, an item without content can have none. -/
def takeBlank : BlockReader :=
  match reader.frames, reader.leaf with
  | ⟨.item _, start, firstLine, []⟩ :: frames, none =>
    { reader with frames := ⟨.barrenItem reader.offset, start, firstLine, []⟩ :: frames }
  | _, _ => reader

/-- Closes the innermost container at the given offset if it is a list, which holds
nothing but items. -/
def closeList (stop : Nat) : BlockReader :=
  match reader.frames with
  | ⟨.list _, _, _, _⟩ :: _ => reader.closeFrame stop
  | _ => reader

/-- Opens a container that starts on the current line. -/
def openFrame (container : Container) (start : Nat) : BlockReader :=
  { reader with frames := ⟨container, start, reader.line, []⟩ :: reader.frames }

/-- Opens a leaf that starts on the current line. -/
def openLeaf (kind : LeafKind) (start stop : Nat) (lines : List LeafLine) : BlockReader :=
  { reader with leaf := some ⟨kind, start, reader.line, stop, lines⟩ }

/-- Adds a line to the open leaf. -/
def extendLeaf (line : LeafLine) : BlockReader :=
  { reader with leaf := reader.leaf.map fun leaf =>
      { leaf with lines := line :: leaf.lines, stop := line.chars.stopOr leaf.stop } }

end BlockReader

end MarkdownFormat
