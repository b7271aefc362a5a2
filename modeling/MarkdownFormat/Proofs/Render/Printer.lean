/-
# A printer for trees

What a rendering writes, said as a recursion over the tree alone. A block is printed as
a list of lines; containers take the lines of their children and put something in front
of them. Inline nodes are printed as bytes. There is no writer here, no lead that stands
on numbered lines, and no stack of lists: an item is numbered by its place in the list.

The printer is for trees of core kinds, nested as they are in Markdown. Lines are given
before the blanks at their ends are cut.
-/

import MarkdownFormat.Proofs.Document.Tree
import MarkdownFormat.Proofs.Writer.Emission
import MarkdownFormat.Render.Block

namespace MarkdownFormat

namespace Kind

/-- Whether a kind is one of the core kinds or stands for an unsupported block. -/
def isCore : Kind → Bool
  | .custom name block => .custom name block = unsupported
  | _ => true

/-- Whether nodes of a kind may have children of another: lists hold items, containers
hold other blocks, text blocks and inlines hold inlines, and the rest holds nothing. -/
def mayHold (parent child : Kind) : Bool :=
  match parent with
  | .document | .blockquote | .listItem | .custom _ _ => child.isBlock && child ≠ .listItem
  | .list => child = .listItem
  | .codeBlock | .fencedCodeBlock | .htmlBlock | .thematicBreak => false
  | _ => !child.isBlock

end Kind

/-- Whether the marker, if it is that of a list, is an ASCII character. -/
def Element.hasPlainMarker : Element → Bool
  | .list marker _ _ => marker < 0x80
  | _ => true

namespace Tree

mutual
/-- Whether all nodes are of core kinds and stand where their kinds may stand. -/
def isMarkdown : Tree → Bool
  | .node label children =>
      label.element.kind.isCore && label.element.hasPlainMarker &&
        areMarkdown label.element.kind children

/-- Whether some trees are well-nested and stand where a parent of the given kind
may have them. -/
def areMarkdown (parent : Kind) : List Tree → Bool
  | [] => true
  | tree :: rest =>
      parent.mayHold tree.kind && tree.isMarkdown && areMarkdown parent rest
end

end Tree

namespace Printer

variable (config : Config) (source : Bytes)

/-- The content of a code span: that of its texts. -/
def spanContent (children : List Tree) : Bytes :=
  children.flatMap fun child =>
    match child.label.element with
    | .text value _ => value.bytes source
    | _ => []

/-- What stands before the children of an inline node other than a code span. Inside a
code span a text has no newlines. -/
def front (openSpan : Option CodeSpanStyle) : Element → Bytes
  | .text value breaks =>
      let bytes := value.bytes source
      (if openSpan.isSome then Render.joinedLines bytes else bytes) ++
        if breaks.hard then Utf8.encode ['\\'] ++ [newline]
        else if breaks.soft then [newline]
        else []
  | .emphasis level => Utf8.encode (List.replicate level '*')
  | .link _ _ => Utf8.encode ['[']
  | .image _ _ => Utf8.encode ['!', '[']
  | .autoLink url => Utf8.encode ['<'] ++ url.bytes source
  | .rawHtml segments => segments.flatMap (Value.bytes source)
  | _ => []

/-- What stands behind the children of an inline node other than a code span. -/
def back : Element → Bytes
  | .emphasis level => Utf8.encode (List.replicate level '*')
  | .link destination title => Utf8.encode (LinkTarget.tail destination title)
  | .image destination title => Utf8.encode (LinkTarget.tail destination title)
  | .autoLink _ => Utf8.encode ['>']
  | _ => []

mutual
/-- An inline node as bytes, and the code span that is open behind it. Leaving a code
span closes the ones around it, too, which then end without a fence. -/
def inline (openSpan : Option CodeSpanStyle) : Tree → Bytes × Option CodeSpanStyle
  | .node label children =>
    match label.element with
    | .codeSpan =>
        let style := CodeSpan.style (Utf8.decodeLossy (spanContent source children))
        let (content, last) := inlineRow (some style) children
        (Utf8.encode (CodeSpan.opening style) ++
          (content ++ Utf8.encode (CodeSpan.closing (last.getD {}))), none)
    | element =>
        let (content, last) := inlineRow openSpan children
        (front source openSpan element ++ (content ++ back element), last)

/-- Inline nodes, one after the other. -/
def inlineRow (openSpan : Option CodeSpanStyle) : List Tree → Bytes × Option CodeSpanStyle
  | [] => ([], openSpan)
  | tree :: rest =>
      let (first, middle) := inline openSpan tree
      let (later, last) := inlineRow middle rest
      (first ++ later, last)
end

/-- The children of a block that holds inline nodes. -/
def content (children : List Tree) : Bytes :=
  (inlineRow source none children).1

/-- An empty line before a block that has a block before it and blank lines between. -/
def separation (previous : Option Kind) (label : Label) : List Bytes :=
  if previous.isSome && label.blankBefore then [[]] else []

/-- Whether a block stands right below inline text. -/
def followsText (previous : Option Kind) (label : Label) : Bool :=
  !label.blankBefore && (previous = some .paragraph || previous = some .textBlock)

/-- Content lines, each on a line of its own. -/
def contentLines (lines : List Value) : List Bytes :=
  lines.flatMap fun line => linesOf (line.bytes source)

/-- Whether a heading is written with an underline. -/
def isUnderlined (previous : Option Kind) (label : Label) (level : Nat)
    (children : List Tree) : Bool :=
  if children.isEmpty || 2 < level then false
  else if 1 < label.lines.length then true
  else config.headingStyle.isSetext && !followsText previous label

/-- The line below a heading. -/
def underline (label : Label) (level : Nat) : Bytes :=
  let widths := label.lines.map fun line => (Utf8.decodeLossy (line.bytes source)).length
  let width := if config.headingStyle = .fullWidthSetext then widths.foldl max 3 else 3
  Utf8.encode (List.replicate width (if level = 1 then '=' else '-'))

/-- A heading, with an underline or behind number signs. -/
def heading (previous : Option Kind) (label : Label) (level : Nat) (children : List Tree) :
    Bytes :=
  if isUnderlined config previous label level children then
    content source children ++ newline :: underline config source label level
  else
    let marks := List.replicate level '#'
    Utf8.encode marks ++ (if children.isEmpty then [] else Utf8.encode [' ']) ++
      (content source children ++
        if config.headingStyle = .atxSurround then Utf8.encode (' ' :: marks) else [])

/-- A thematic break. Below text, dashes give way to asterisks. -/
def rule (previous : Option Kind) (label : Label) : Bytes :=
  let style := if config.breakStyle = .dashed && followsText previous label then .starred
    else config.breakStyle
  Utf8.encode (List.replicate config.effectiveBreakLength style.char)

/-- The fence around a code block. -/
def fence (info : Option Value) (lines : List Value) : Bytes :=
  Utf8.encode (CodeFence.fence ((info.map (·.bytes source)).getD [])
    (lines.map (·.bytes source)))

/-- What stands before the first line of an item. -/
def itemPrefix (marker : UInt8) (ordered : Bool) (number : Nat) : Bytes :=
  (if ordered then Utf8.encode (Digits.decimal number) else []) ++ [marker, 0x20]

/-- An item: its prefix before the first line, as much space or a multiple of it before
the others. -/
def item (marker : UInt8) (ordered : Bool) (number : Nat) : List Bytes → List Bytes :=
  let first := itemPrefix marker ordered number
  hang first (List.replicate (config.effectiveNestedListLength * first.length) 0x20)

/-- Lines that stand as they are. -/
def plain (_ : Nat) (lines : List Bytes) : List Bytes :=
  lines

mutual
/-- The lines of a block, given the kind of the block before it. -/
def block (previous : Option Kind) : Tree → List Bytes
  | .node label children =>
    match label.element with
    | .paragraph | .textBlock => linesOf (content source children)
    | .heading level => linesOf (heading config source previous label level children)
    | .thematicBreak => [rule config previous label]
    | .codeBlock =>
        (contentLines source label.lines).map (Utf8.ofString config.indentStyle.unit ++ ·)
    | .fencedCodeBlock info =>
        linesOf (fence source info label.lines ++ (info.map (·.bytes source)).getD []) ++
          contentLines source label.lines ++ [fence source info label.lines]
    | .htmlBlock closure => contentLines source (label.lines ++ closure.toList)
    | .blockquote => (row plain 0 none children).map (Utf8.encode ['>', ' '] ++ ·)
    | .list marker ordered start => row (item config marker ordered) start none children
    | .listItem => if children.isEmpty then [[]] else row plain 0 none children
    | _ => row plain 0 none children

/-- The lines of blocks that follow one another. What becomes of the lines of a block
may depend on its number. -/
def row (dress : Nat → List Bytes → List Bytes) (number : Nat) (previous : Option Kind) :
    List Tree → List Bytes
  | [] => []
  | tree :: rest =>
      separation previous tree.label ++ dress number (block previous tree) ++
        row dress (number + 1) (some tree.kind) rest
end

/-- A whole tree, given the kind of the node before it. -/
def print (previous : Option Kind) (tree : Tree) : List Bytes :=
  if tree.kind.isBlock then
    separation previous tree.label ++ block config source previous tree
  else linesOf (inline source none tree).1

end Printer

end MarkdownFormat
