/-
# Assembling documents

A document is assembled from parse events. Open constructs form a stack; an event
adds to the innermost of them. Three things need more than that:

* Inline content directly inside a list item gets a text block around it, which is
  closed by the next block or by the end of the item.
* Consecutive text events make one text, whose segment grows.
* A block is marked as preceded by blank lines if the source has one between the
  end of the content before it and its own start, or if it would otherwise run
  into its neighbour.

An event may refer to places outside of the source. Such an assembly is astray and
yields no document.
-/

import MarkdownFormat.Document.Edit
import MarkdownFormat.Event.Basic
import MarkdownFormat.Event.Spelling

namespace MarkdownFormat

/-- A document under construction. -/
structure Assembly where
  document : Document := .empty
  /-- The open nodes inside the root, the innermost first. -/
  openNodes : List NodeId := []
  /-- For each node, the furthest end of content inside it. -/
  contentEnd : Array Nat := #[0]
  /-- The text that the next text event continues. -/
  growingText : Option NodeId := none
  /-- The content of the open code block. -/
  code : Option (List Char) := none
  /-- The lines of the open HTML block. -/
  html : List Value := []
  /-- Whether a place outside of the source was looked up. -/
  astray : Bool := false

namespace Assembly

variable (a : Assembly)

/-- The innermost open node. -/
def top : NodeId :=
  a.openNodes.headD Document.root

/-- What the innermost open node is. -/
def topElement : Element :=
  (a.document.node a.top).element

/-- Records that a place outside of the source was looked up. -/
def goAstray : Assembly :=
  { a with astray := true }

/-- Records content up to an offset inside all open nodes. -/
def touch (stop : Nat) : Assembly :=
  let extend (ends : Array Nat) (id : NodeId) := ends.modify id (max · stop)
  { a with contentEnd := (a.openNodes ++ [Document.root]).foldl extend a.contentEnd }

/-- Adds a node behind the last child of another. Its place is the old size of the
document. -/
def add (parent : NodeId) (element : Element) (range : Segment) (blankBefore : Bool) :
    Assembly :=
  let id := a.document.size
  { a with
    document :=
      (((a.document.addNode element).setRange id range).setBlankBefore id blankBefore).appendChild
        parent id
    contentEnd := a.contentEnd.push range.start }

/-- Makes a node the innermost open one. -/
def push (id : NodeId) : Assembly :=
  { a with openNodes := id :: a.openNodes }

/-- Closes the innermost open node. The root stays open. -/
def pop : Assembly :=
  { a with openNodes := a.openNodes.tail }

/-- Closes a text block. -/
def closeTextBlock : Assembly :=
  if a.topElement = .textBlock then a.pop else a

/-- Whether a block of the given kind counts as preceded by blank lines. Headings
keep apart from all blocks but text blocks, and a thematic break from a paragraph,
even without a blank line in the source. -/
def blankBefore (source : Bytes) (parent : NodeId) (start : Nat) (kind : Kind) : Bool :=
  match (a.document.node parent).lastChild with
  | none => false
  | some previous =>
    let previousKind := a.document.kind previous
    if (kind = .heading || previousKind = .heading)
        && kind ≠ .textBlock && previousKind ≠ .textBlock then true
    else if kind = .thematicBreak && previousKind = .paragraph then true
    else Spelling.hasBlankLine source (a.contentEnd.getD previous 0) start

/-- Opens a block inside the innermost open node. -/
def openBlock (source : Bytes) (element : Element) (range : Segment) : Assembly :=
  let a := a.closeTextBlock
  let id := a.document.size
  (a.add a.top element range (a.blankBefore source a.top range.start element.kind)).push id

/-- Makes sure that inline content can be added: inside an item, in a text block. -/
def openInlines (source : Bytes) (start : Nat) : Assembly :=
  if a.topElement = .listItem then a.openBlock source .textBlock ⟨start, start⟩ else a

/-- Adds an inline node without opening it. -/
def addInline (source : Bytes) (element : Element) (range : Segment) : Assembly :=
  let a := a.openInlines source range.start
  a.add a.top element range false

/-- Opens an inline node. -/
def openInline (source : Bytes) (element : Element) (range : Segment) : Assembly :=
  let a := a.openInlines source range.start
  let id := a.document.size
  (a.add a.top element range false).push id

/-- Opens a code block, the content of which is collected. -/
def openCode (source : Bytes) (element : Element) (range : Segment) : Assembly :=
  { a with code := some [] }.openBlock source element range

/-- Opens a construct. -/
def opened (source : Bytes) (range : Segment) : Tag → Assembly
  | .paragraph => a.openBlock source .paragraph range
  | .heading level => a.openBlock source (.heading level) range
  | .blockQuote => a.openBlock source .blockquote range
  | .indentedCode => a.openCode source .codeBlock range
  | .fencedCode info =>
    let info := if info = "" then none else some (Value.owned info)
    a.openCode source (.fencedCodeBlock info) range
  | .htmlBlock => a.openBlock source (.htmlBlock none) range
  | .list start =>
    let marker := Spelling.listMarker source range.start start.isSome
    a.openBlock source (.list marker start.isSome (start.getD 1)) range
  | .item => a.openBlock source .listItem range
  | .emphasis => a.openInline source (.emphasis 1) range
  | .strong => a.openInline source (.emphasis 2) range
  | .strikethrough => a.openInline source (.custom "Strikethrough" false) range
  | .link form destination title =>
    match form with
    | .autolink | .email =>
      let url := Value.source ⟨range.start + 1, range.stop - 1⟩
      a.openInline source (.autoLink url) range
    | .inline | .reference => a.openInline source (.link destination title) range
  | .image destination title => a.openInline source (.image destination title) range
  | .other => a.openBlock source (.custom "Unsupported" true) range

/-- Gives the innermost open node its content lines. -/
def setLines (lines : List Value) : Assembly :=
  { a with document := a.document.setLines a.top lines }

/-- Finishes the innermost open node. -/
def finish (source : Bytes) (range : Segment) : EndTag → Assembly
  | .codeBlock =>
    let lines := (cutAfter (· == '\n') (a.code.getD [])).map fun line =>
      Value.owned (String.ofList line)
    let a : Assembly := { a.setLines lines with code := none }
    if a.topElement.kind = .fencedCodeBlock then a.touch range.stop else a
  | .heading =>
    match Spelling.headingLines? source range with
    | some lines => (a.setLines (lines.map .source)).touch range.stop
    | none => a.goAstray
  | .htmlBlock => { a.setLines a.html with html := [] }
  | .other => a

/-- Closes the innermost construct. -/
def closed (source : Bytes) (range : Segment) (tag : EndTag) : Assembly :=
  (a.closeTextBlock.finish source range tag).pop

/-- Adds text, unless the innermost node is an autolink, which shows its address. -/
def text (source : Bytes) (range : Segment) (content : String) : Assembly :=
  match a.code with
  | some code => { a with code := some (code ++ content.toList) }.touch range.stop
  | none =>
    if a.topElement.kind = .autoLink then a
    else match a.growingText.map fun id => (id, (a.document.node id).element) with
      | some (id, .text (.source segment) breaks) =>
        let element := .text (.source (segment.withStop range.stop)) breaks
        { a with document := a.document.setElement id element }.touch range.stop
      | _ =>
        match Spelling.textStart? source range.start with
        | none => a.goAstray
        | some start =>
          let range := ⟨start, range.stop⟩
          let a := a.openInlines source start
          let id := a.document.size
          { (a.add a.top (.plainText (.source range)) range false).touch range.stop with
            growingText := some id }

/-- Adds a code span with its content. -/
def codeSpan (source : Bytes) (range : Segment) (content : String) : Assembly :=
  let a := a.openInlines source range.start
  let id := a.document.size
  let a := (a.add a.top .codeSpan range false).touch range.stop
  a.add id (.plainText (.owned content)) range false

/-- Adds raw HTML. Over several lines it is reported without container markers, so
it may differ from what stands in its range. -/
def inlineHtml (source : Bytes) (range : Segment) (content : String) : Assembly :=
  let value := if Spelling.slice? source range = some (Utf8.ofString content) then
      Value.source range
    else Value.owned content
  (a.addInline source (.rawHtml [value]) range).touch range.stop

/-- Adds a line of an HTML block; elsewhere, raw HTML. -/
def htmlLine (source : Bytes) (range : Segment) (content : String) : Assembly :=
  if a.topElement.kind = .htmlBlock then
    let a := a.touch range.stop
    { a with html := a.html ++ [.source range] }
  else a.inlineHtml source range content

/-- Marks the text before a line break; where there is none, or it is marked
already, adds an empty one. -/
def lineBreak (source : Bytes) (range : Segment) (breaks : LineBreaks) : Assembly :=
  let a := a.openInlines source range.start
  let last := (a.document.node a.top).lastChild
  match last.map fun id => (id, (a.document.node id).element) with
  | some (id, .text value ⟨false, false⟩) =>
    { a with document := a.document.setElement id (.text value breaks) }
  | _ => a.addInline source (.text .empty breaks) range

/-- Adds a thematic break. -/
def rule (source : Bytes) (range : Segment) : Assembly :=
  ((a.openBlock source .thematicBreak range).touch range.stop).pop

/-- Takes in one event. -/
def take (source : Bytes) (a : Assembly) (placed : PlacedEvent) : Assembly :=
  let range := placed.range
  let settled := { a with growingText := none }
  match placed.event with
  | .text content => a.text source range content
  | .opened tag => settled.opened source range tag
  | .closed tag => settled.closed source range tag
  | .code content => settled.codeSpan source range content
  | .html content => settled.htmlLine source range content
  | .inlineHtml content => settled.inlineHtml source range content
  | .softBreak => settled.lineBreak source range { soft := true }
  | .hardBreak => settled.lineBreak source range { hard := true }
  | .rule => settled.rule source range
  | .other => settled

/-- Takes in all events in order. -/
def ofEvents (source : Bytes) (events : List PlacedEvent) : Assembly :=
  events.foldl (take source) {}

end Assembly

/-- The document that the events describe, unless they refer to places outside of
the source. -/
def Document.ofEvents? (source : Bytes) (events : List PlacedEvent) : Option Document :=
  let a := Assembly.ofEvents source events
  if a.astray then none else some a.document

end MarkdownFormat
