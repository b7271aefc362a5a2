/-
# Checked assemblies

An assembly looks up nodes by their places in the document, the ends of content by the places
of their nodes, and bytes by their offsets. Here events are taken in once more, with every
look-up checked: if there is no such node, end or byte, there is no answer. Events that stay
within the source always have one, in whatever order they come, and it is the assembly
without the checks.

The open nodes and the last child of each are there, and so are the ends of content of all
nodes, as `Assembly.Recorded` says; a text that is growing is a last child, by
`Assembly.IsSteady`. Both are kept by every event, so only the steps of a single event are
left to be followed here.
-/

import MarkdownFormat.Proofs.Event.BlankBefore
import MarkdownFormat.Proofs.Event.CheckedSpelling
import MarkdownFormat.Proofs.Event.Constructs
import MarkdownFormat.Proofs.Event.Structure

namespace MarkdownFormat.Checked

open Assembly (document_add document_touch exists_textStart found_of_map_element
  lineBreak_of_no_unmarked_text lineBreak_of_unmarked_text)
open Document (root)

/-- The node at a place. -/
def node (doc : Document) (id : NodeId) : Option Node :=
  doc.nodes[id]?

/-- Changes one node. -/
def modify (doc : Document) (id : NodeId) (change : Node → Node) : Option Document :=
  if id < doc.size then some (doc.modify id change) else none

/-- Changes one node, if one is given. -/
def modify? (doc : Document) (id : Option NodeId) (change : Node → Node) : Option Document :=
  match id with
  | some id => modify doc id change
  | none => some doc

/-- Says what comes after a node, or which child of the parent comes first. -/
def setNext (doc : Document) (parent previous next : Option NodeId) : Option Document :=
  match previous with
  | some previous => modify doc previous ({ · with next })
  | none => modify? doc parent ({ · with firstChild := next })

/-- Says what comes before a node, or which child of the parent comes last. -/
def setPrevious (doc : Document) (parent previous next : Option NodeId) : Option Document :=
  match next with
  | some next => modify doc next ({ · with previous })
  | none => modify? doc parent ({ · with lastChild := previous })

/-- Takes a node out of its place and closes the gap. -/
def detach (doc : Document) (id : NodeId) : Option Document := do
  let node ← node doc id
  let doc ← setNext doc node.parent node.previous node.next
  let doc ← setPrevious doc node.parent node.previous node.next
  modify doc id ({ · with parent := none, previous := none, next := none })

/-- Moves `child` behind the last child of `parent`. -/
def appendChild (doc : Document) (parent child : NodeId) : Option Document := do
  let doc ← detach doc child
  let last := (← node doc parent).lastChild
  let doc ← modify doc child ({ · with parent := some parent, previous := last })
  let doc ← setNext doc (some parent) last (some child)
  setPrevious doc (some parent) (some child) none

/-- The element of a node, if one is given. -/
def element? (doc : Document) (id : Option NodeId) : Option (Option (NodeId × Element)) :=
  match id with
  | some id => do return some (id, (← node doc id).element)
  | none => some none

/-- What the innermost open node is. -/
def topElement (a : Assembly) : Option Element := do
  return (← node a.document a.top).element

/-- Records content up to an offset inside a node. -/
def extend (stop : Nat) (ends : Array Nat) (id : NodeId) : Option (Array Nat) :=
  if id < ends.size then some (ends.modify id (max · stop)) else none

/-- Records content up to an offset inside all open nodes. -/
def touch (a : Assembly) (stop : Nat) : Option Assembly := do
  return { a with
    contentEnd := ← (a.openNodes ++ [root]).foldlM (extend stop) a.contentEnd }

/-- Adds a node behind the last child of another. -/
def add (a : Assembly) (parent : NodeId) (element : Element) (range : Segment)
    (blankBefore : Bool) : Option Assembly := do
  let id := a.document.size
  let doc ← modify (a.document.addNode element) id ({ · with range := some range })
  let doc ← modify doc id ({ · with blankBefore })
  return { a with
    document := ← appendChild doc parent id
    contentEnd := a.contentEnd.push range.start }

/-- Closes a text block. -/
def closeTextBlock (a : Assembly) : Option Assembly := do
  return if (← topElement a) = .textBlock then a.pop else a

/-- Whether a block of the given kind counts as preceded by blank lines. -/
def blankBefore (source : Bytes) (a : Assembly) (parent : NodeId) (start : Nat) (kind : Kind) :
    Option Bool := do
  match (← node a.document parent).lastChild with
  | none => return false
  | some previous =>
    let previousKind := (← node a.document previous).element.kind
    if (kind = .heading || previousKind = .heading)
        && kind ≠ .textBlock && previousKind ≠ .textBlock then return true
    else if kind = .thematicBreak && previousKind = .paragraph then return true
    else hasBlankLine source (← a.contentEnd[previous]?) start

/-- Opens a block inside the innermost open node. -/
def openBlock (source : Bytes) (a : Assembly) (element : Element) (range : Segment) :
    Option Assembly := do
  let a ← closeTextBlock a
  let blank ← blankBefore source a a.top range.start element.kind
  return (← add a a.top element range blank).push a.document.size

/-- Makes sure that inline content can be added: inside an item, in a text block. -/
def openInlines (source : Bytes) (a : Assembly) (start : Nat) : Option Assembly := do
  if (← topElement a) = .listItem then openBlock source a .textBlock ⟨start, start⟩
  else return a

/-- Adds an inline node without opening it. -/
def addInline (source : Bytes) (a : Assembly) (element : Element) (range : Segment) :
    Option Assembly := do
  let a ← openInlines source a range.start
  add a a.top element range false

/-- Opens an inline node. -/
def openInline (source : Bytes) (a : Assembly) (element : Element) (range : Segment) :
    Option Assembly := do
  let a ← openInlines source a range.start
  return (← add a a.top element range false).push a.document.size

/-- Opens a construct. The content of a code block is collected. -/
def opened (source : Bytes) (a : Assembly) (range : Segment) (tag : Tag) : Option Assembly :=
  let element := tag.element source range
  if tag.isInline then openInline source a element range
  else if tag.isCode then openBlock source { a with code := some [] } element range
  else openBlock source a element range

/-- Gives the innermost open node its content lines. -/
def setLines (a : Assembly) (lines : List Value) : Option Assembly := do
  return { a with document := ← modify a.document a.top ({ · with lines }) }

/-- Finishes the innermost open node. -/
def finish (source : Bytes) (a : Assembly) (range : Segment) : EndTag → Option Assembly
  | .codeBlock => do
    let lines := (cutAfter (· == '\n') (a.code.getD [])).map fun line =>
      Value.owned (String.ofList line)
    let a : Assembly := { ← setLines a lines with code := none }
    if (← topElement a).kind = .fencedCodeBlock then touch a range.stop else return a
  | .heading => do
    let lines ← headingLines source range
    touch (← setLines a (lines.map .source)) range.stop
  | .htmlBlock => do return { ← setLines a a.html with html := [] }
  | .other => some a

/-- Closes the innermost construct. -/
def closed (source : Bytes) (a : Assembly) (range : Segment) (tag : EndTag) : Option Assembly := do
  return (← finish source (← closeTextBlock a) range tag).pop

/-- Lets a text go on up to an offset. -/
def growText (a : Assembly) (id : NodeId) (segment : Segment) (breaks : LineBreaks) (stop : Nat) :
    Option Assembly := do
  let element := .text (.source (segment.withStop stop)) breaks
  touch { a with document := ← modify a.document id ({ · with element }) } stop

/-- Starts a text. -/
def newText (source : Bytes) (a : Assembly) (range : Segment) : Option Assembly := do
  let start ← Spelling.textStart? source range.start
  let a ← openInlines source a start
  let added ← add a a.top (.plainText (.source ⟨start, range.stop⟩)) ⟨start, range.stop⟩ false
  return { ← touch added range.stop with growingText := some a.document.size }

/-- Adds text, unless the innermost node is an autolink. -/
def text (source : Bytes) (a : Assembly) (range : Segment) (content : String) :
    Option Assembly :=
  match a.code with
  | some code => touch { a with code := some (code ++ content.toList) } range.stop
  | none => do
    if (← topElement a).kind = .autoLink then return a
    else match ← element? a.document a.growingText with
      | some (id, .text (.source segment) breaks) => growText a id segment breaks range.stop
      | _ => newText source a range

/-- Adds a code span with its content. -/
def codeSpan (source : Bytes) (a : Assembly) (range : Segment) (content : String) :
    Option Assembly := do
  let a ← openInlines source a range.start
  let span ← touch (← add a a.top .codeSpan range false) range.stop
  add span a.document.size (.plainText (.owned content)) range false

/-- Adds raw HTML. -/
def inlineHtml (source : Bytes) (a : Assembly) (range : Segment) (content : String) :
    Option Assembly := do
  let value := if Spelling.slice? source range = some (Utf8.ofString content) then
      Value.source range
    else Value.owned content
  touch (← addInline source a (.rawHtml [value]) range) range.stop

/-- Adds a line of an HTML block; elsewhere, raw HTML. -/
def htmlLine (source : Bytes) (a : Assembly) (range : Segment) (content : String) :
    Option Assembly := do
  if (← topElement a).kind = .htmlBlock then
    let a ← touch a range.stop
    return { a with html := a.html ++ [.source range] }
  else inlineHtml source a range content

/-- Marks the text before a line break, or adds an empty one. -/
def lineBreak (source : Bytes) (a : Assembly) (range : Segment) (breaks : LineBreaks) :
    Option Assembly := do
  let a ← openInlines source a range.start
  match ← element? a.document (← node a.document a.top).lastChild with
  | some (id, .text value ⟨false, false⟩) =>
    return { a with
      document := ← modify a.document id ({ · with element := .text value breaks }) }
  | _ => addInline source a (.text .empty breaks) range

/-- Adds a thematic break. -/
def rule (source : Bytes) (a : Assembly) (range : Segment) : Option Assembly := do
  return (← touch (← openBlock source a .thematicBreak range) range.stop).pop

/-- Takes in one event. -/
def take (source : Bytes) (a : Assembly) (placed : PlacedEvent) : Option Assembly :=
  let range := placed.range
  match placed.event with
  | .text content => text source a range content
  | .opened tag => opened source a.settle range tag
  | .closed tag => closed source a.settle range tag
  | .code content => codeSpan source a.settle range content
  | .html content => htmlLine source a.settle range content
  | .inlineHtml content => inlineHtml source a.settle range content
  | .softBreak => lineBreak source a.settle range { soft := true }
  | .hardBreak => lineBreak source a.settle range { hard := true }
  | .rule => rule source a.settle range
  | .other => some a.settle

section Documents

variable {doc : Document} {id : NodeId}

/-- A node that is there is found. -/
theorem node_eq (hid : id < doc.size) : node doc id = some (doc.node id) := by
  rw [node, Document.node, Array.getD_eq_getD_getElem?, Array.getElem?_eq_getElem hid]
  rfl

/-- A node that is there can be changed. -/
theorem modify_eq (hid : id < doc.size) (change : Node → Node) :
    modify doc id change = some (doc.modify id change) :=
  if_pos hid

/-- So can one that need not be named. -/
theorem modify?_eq {id : Option NodeId} (hid : ∀ k, id = some k → k < doc.size)
    (change : Node → Node) : modify? doc id change = some (doc.modify? id change) := by
  cases id with
  | none => rfl
  | some id => exact modify_eq (hid id rfl) change

/-- The element of a node that need not be named is found with it. -/
theorem element?_eq {id : Option NodeId} (hid : ∀ k, id = some k → k < doc.size) :
    element? doc id = some (id.map fun id => (id, (doc.node id).element)) := by
  cases id with
  | none => rfl
  | some id =>
      rw [element?, node_eq (hid id rfl)]
      rfl

section Links

variable {parent previous next : Option NodeId} (hparent : ∀ k, parent = some k → k < doc.size)
include hparent

/-- The link behind a place can be set if all who share it are there. -/
theorem setNext_eq (hprevious : ∀ k, previous = some k → k < doc.size) :
    setNext doc parent previous next = some (doc.setNext parent previous next) := by
  cases previous with
  | some previous => exact modify_eq (hprevious previous rfl) _
  | none => exact modify?_eq hparent _

/-- So can the link before it. -/
theorem setPrevious_eq (hnext : ∀ k, next = some k → k < doc.size) :
    setPrevious doc parent previous next = some (doc.setPrevious parent previous next) := by
  cases next with
  | some next => exact modify_eq (hnext next rfl) _
  | none => exact modify?_eq hparent _

end Links

/-- A node can be detached if all that it is linked to are there. -/
theorem detach_eq (hid : id < doc.size)
    (hparent : ∀ k, (doc.node id).parent = some k → k < doc.size)
    (hprevious : ∀ k, (doc.node id).previous = some k → k < doc.size)
    (hnext : ∀ k, (doc.node id).next = some k → k < doc.size) :
    detach doc id = some (doc.detach id) := by
  rw [detach, node_eq hid]
  simp only [Option.bind_eq_bind, Option.bind_some]
  rw [setNext_eq hparent hprevious, Option.bind_some,
    setPrevious_eq (by simpa using hparent) (by simpa using hnext), Option.bind_some,
    modify_eq (by simpa using hid)]
  rfl

/-- A node without links is linked in below one that is there. -/
theorem appendChild_eq {parent child : NodeId} (hparent : parent < doc.size)
    (hchild : child < doc.size) (htop : (doc.node child).parent = none)
    (hprevious : (doc.node child).previous = none) (hnext : (doc.node child).next = none)
    (hlast : ∀ k, (doc.node parent).lastChild = some k → k < doc.size) :
    appendChild doc parent child = some (doc.appendChild parent child) := by
  have hdetach := detach_eq hchild (by simp [htop]) (by simp [hprevious]) (by simp [hnext])
  have hsize := @Document.size_detach doc child
  rw [← Document.node_detach_of_unlinked htop hprevious hnext parent] at hlast
  rw [Document.appendChild_eq, appendChild, hdetach]
  generalize doc.detach child = detached at hsize hlast ⊢
  rw [← hsize] at hparent hchild hlast
  simp only [Option.bind_eq_bind, Option.bind_some, node_eq hparent, modify_eq hchild]
  rw [setNext_eq (by simpa using hparent) (by simpa using hlast), Option.bind_some,
    setPrevious_eq (by simpa using hparent) (by simp)]

end Documents

/-- Content is recorded for nodes that are there, one after the other. -/
theorem foldlM_extend {stop : Nat} {ids : List NodeId} {ends : Array Nat}
    (hids : ∀ id ∈ ids, id < ends.size) :
    ids.foldlM (extend stop) ends =
      some (ids.foldl (fun ends id => ends.modify id (max · stop)) ends) := by
  induction ids generalizing ends with
  | nil => rfl
  | cons id ids ih =>
      obtain ⟨hid, hids⟩ := List.forall_mem_cons.mp hids
      rw [List.foldlM_cons, extend, if_pos hid, List.foldl_cons]
      exact ih (by simpa using hids)

section Steps

variable {source : Bytes} {a : Assembly} {stops : NodeId → List Nat} {range : Segment}
  (hrecorded : a.Recorded source stops)
include hrecorded

/-- The innermost open node is there. -/
theorem topElement_eq : topElement a = some a.topElement := by
  rw [topElement, node_eq hrecorded.top_lt_size]
  rfl

/-- All open nodes are there, and their ranges can be made longer. -/
theorem touch_eq (stop : Nat) : touch a stop = some (a.touch stop) := by
  rw [touch, foldlM_extend (hrecorded.size_contentEnd ▸ hrecorded.open_lt)]
  rfl

/-- A node can be added below any node that is there. -/
theorem add_eq {parent : NodeId} (hparent : parent < a.document.size) (element : Element)
    (range : Segment) (blankBefore : Bool) :
    add a parent element range blankBefore = some (a.add parent element range blankBefore) := by
  have hnode := @Document.node_added a.document element range blankBefore
  have hsize : (((a.document.addNode element).setRange a.document.size range).setBlankBefore
      a.document.size blankBefore).size = a.document.size + 1 := by
    simp [Document.setRange, Document.setBlankBefore]
  rw [add, Assembly.add]
  simp only [Option.bind_eq_bind]
  rw [modify_eq (by simp), Option.bind_some, modify_eq (by simp), Option.bind_some,
    ← Document.setRange, ← Document.setBlankBefore]
  generalize ((a.document.addNode element).setRange a.document.size range).setBlankBefore
    a.document.size blankBefore = doc at hnode hsize ⊢
  have hself := hnode a.document.size
  rw [if_pos rfl] at hself
  have hthere : a.document.size < doc.size := Nat.lt_of_lt_of_eq (Nat.lt_succ_self _) hsize.symm
  have hbelow : parent < doc.size := Nat.lt_trans hparent hthere
  rw [appendChild_eq hbelow hthere (by rw [hself]) (by rw [hself]) (by rw [hself])]
  · rfl
  · intro last hlast
    rw [hnode, if_neg (Nat.ne_of_lt hparent)] at hlast
    rw [hsize]
    exact Nat.lt_succ_of_lt (hrecorded.lastChild_lt parent last hlast).2

/-- Whether a text block is open can be found out. -/
theorem closeTextBlock_eq : closeTextBlock a = some a.closeTextBlock := by
  rw [closeTextBlock, topElement_eq hrecorded]
  rfl

/-- Every node has an end of content. -/
theorem contentEnd_eq {id : NodeId} (hid : id < a.document.size) :
    a.contentEnd[id]? = some (a.contentEnd.getD id 0) := by
  rw [← hrecorded.size_contentEnd] at hid
  rw [Array.getD_eq_getD_getElem?, Array.getElem?_eq_getElem hid, Option.getD_some]

/-- Whether blank lines go before a block is read from ends that are there. -/
theorem blankBefore_eq {parent : NodeId} (hparent : parent < a.document.size) (start : Nat)
    (kind : Kind) :
    blankBefore source a parent start kind = some (a.blankBefore source parent start kind) := by
  rw [blankBefore, Assembly.blankBefore, node_eq hparent]
  simp only [Option.bind_eq_bind, Option.bind_some]
  cases hlast : (a.document.node parent).lastChild with
  | none => rfl
  | some previous =>
      have hprevious := (hrecorded.lastChild_lt parent previous hlast).2
      simp only [node_eq hprevious, contentEnd_eq hrecorded hprevious, hasBlankLine_eq,
        Option.bind_some]
      rw [apply_ite some, apply_ite some]
      rfl

/-- So a block can be opened. -/
theorem openBlock_eq (element : Element) (range : Segment) :
    openBlock source a element range = some (a.openBlock source element range) := by
  have hclosed := hrecorded.closeTextBlock
  rw [openBlock, Assembly.openBlock, closeTextBlock_eq hrecorded]
  simp only [Option.bind_eq_bind, Option.bind_some]
  rw [blankBefore_eq hclosed hclosed.top_lt_size, Option.bind_some,
    add_eq hclosed hclosed.top_lt_size]
  rfl

/-- A text block can be opened for inline content. -/
theorem openInlines_eq (start : Nat) :
    openInlines source a start = some (a.openInlines source start) := by
  rw [openInlines, Assembly.openInlines, topElement_eq hrecorded]
  simp only [Option.bind_eq_bind, Option.bind_some, openBlock_eq hrecorded]
  exact (apply_ite some _ _ _).symm

/-- Content lines can be set at the innermost open node. -/
theorem setLines_eq (lines : List Value) : setLines a lines = some (a.setLines lines) := by
  rw [setLines, modify_eq hrecorded.top_lt_size]
  rfl

section Within

variable (hrange : range.start ≤ source.length)
include hrange

/-- An inline node can be added. -/
theorem addInline_eq (element : Element) :
    addInline source a element range = some (a.addInline source element range) := by
  rw [addInline, Assembly.addInline, openInlines_eq hrecorded]
  exact add_eq (hrecorded.openInlines hrange) (hrecorded.openInlines hrange).top_lt_size _ _ _

/-- An inline node can be opened. -/
theorem openInline_eq (element : Element) :
    openInline source a element range = some (a.openInline source element range) := by
  have hopen := hrecorded.openInlines hrange
  rw [openInline, Assembly.openInline, openInlines_eq hrecorded]
  simp only [Option.bind_eq_bind, Option.bind_some, add_eq hopen hopen.top_lt_size]
  rfl

/-- So the start of a construct can be taken in. -/
theorem opened_eq (tag : Tag) :
    opened source a range tag = some (a.opened source range tag) := by
  have hcollecting : ({ a with code := some [] } : Assembly).Recorded source stops :=
    hrecorded.of_document_eq rfl rfl rfl rfl
  rw [opened, Assembly.opened_eq]
  simp only [openInline_eq hrecorded hrange, openBlock_eq hrecorded, openBlock_eq hcollecting,
    ← apply_ite some]
  rfl

/-- The text of a code span is added below the node that has just been added. -/
theorem codeSpan_eq (content : String) :
    codeSpan source a range content = some (a.codeSpan source range content) := by
  have hopen := hrecorded.openInlines hrange
  have hspan := hopen.add_inline_top (show Element.codeSpan.kind.isBlock = false from rfl) hrange
  rw [codeSpan, Assembly.codeSpan, openInlines_eq hrecorded]
  generalize a.openInlines source range.start = opened at hopen hspan ⊢
  simp only [Option.bind_eq_bind, Option.bind_some, add_eq hopen hopen.top_lt_size,
    touch_eq hspan]
  apply add_eq (hspan.touch range.stop)
  rw [document_touch, document_add, Document.size_appendNew]
  exact Nat.lt_succ_self _

/-- Inline HTML can be taken in. -/
theorem inlineHtml_eq (content : String) :
    inlineHtml source a range content = some (a.inlineHtml source range content) := by
  rw [inlineHtml, Assembly.inlineHtml]
  simp only [Option.bind_eq_bind, Option.bind_some, addInline_eq hrecorded hrange]
  exact touch_eq (hrecorded.addInline rfl hrange) _

/-- A line of HTML can be taken in. -/
theorem htmlLine_eq (content : String) :
    htmlLine source a range content = some (a.htmlLine source range content) := by
  rw [htmlLine, Assembly.htmlLine, topElement_eq hrecorded]
  simp only [Option.bind_eq_bind, Option.bind_some, touch_eq hrecorded,
    inlineHtml_eq hrecorded hrange]
  exact (apply_ite some _ _ _).symm

/-- A thematic break can be taken in. -/
theorem rule_eq : rule source a range = some (a.rule source range) := by
  have hopen : (a.openBlock source .thematicBreak range).Recorded source stops :=
    hrecorded.openBlock rfl hrange
  rw [rule, openBlock_eq hrecorded]
  simp only [Option.bind_eq_bind, Option.bind_some, touch_eq hopen]
  rfl

/-- A line break can be taken in: the last child is there. -/
theorem lineBreak_eq (breaks : LineBreaks) :
    lineBreak source a range breaks = some (a.lineBreak source range breaks) := by
  have hopen := hrecorded.openInlines hrange
  have hlast := fun last hlast => (hopen.lastChild_lt (a.openInlines source range.start).top
    last hlast).2
  rw [lineBreak, openInlines_eq hrecorded]
  simp only [Option.bind_eq_bind, Option.bind_some, node_eq hopen.top_lt_size, element?_eq hlast]
  split
  · next id value hfound =>
      obtain ⟨hid, helement⟩ := found_of_map_element hfound
      rw [lineBreak_of_unmarked_text rfl hid helement, modify_eq (hlast id hid)]
      rfl
  · next hnone =>
      rw [lineBreak_of_no_unmarked_text rfl]
      · exact addInline_eq hopen hrange _
      · intro id hid value helement
        exact hnone id value (by rw [hid, Option.map_some, helement])

end Within

/-- The content lines of a construct are read from a range that is there. -/
theorem finish_eq (hrange : range.isWithin source) (tag : EndTag) :
    finish source a range tag = some (a.finish source range tag) := by
  cases tag with
  | heading =>
      have hslice : Spelling.slice? source range = some (range.bytes source) := by
        simp only [Segment.isWithin, Bool.and_eq_true, decide_eq_true_eq] at hrange
        exact if_pos hrange
      rw [finish, Assembly.finish, headingLines_eq, Spelling.headingLines?, hslice]
      simp only [Option.bind_eq_bind, Option.bind_some, Option.map_some, setLines_eq hrecorded]
      exact touch_eq (hrecorded.setLines _) _
  | codeBlock =>
      rw [finish, Assembly.finish]
      generalize (cutAfter (· == '\n') (a.code.getD [])).map
        (fun line => Value.owned (String.ofList line)) = lines
      have hset : ({ a.setLines lines with code := none } : Assembly).Recorded source stops :=
        (hrecorded.setLines lines).of_document_eq rfl rfl rfl rfl
      simp only [Option.bind_eq_bind, Option.bind_some, setLines_eq hrecorded, topElement_eq hset,
        touch_eq hset]
      exact (apply_ite some _ _ _).symm
  | htmlBlock =>
      rw [finish, setLines_eq hrecorded]
      rfl
  | other => rfl

/-- So the end of a construct can be taken in. -/
theorem closed_eq (hrange : range.isWithin source) (tag : EndTag) :
    closed source a range tag = some (a.closed source range tag) := by
  rw [closed, closeTextBlock_eq hrecorded, Option.bind_eq_bind, Option.bind_some,
    finish_eq hrecorded.closeTextBlock hrange]
  rfl

/-- A text that grows is there. -/
theorem growText_eq {found : Option NodeId} (hfound : ∀ id, found = some id → id < a.document.size)
    {id : NodeId} {segment : Segment} {breaks : LineBreaks}
    (hmap : found.map (fun id => (id, (a.document.node id).element)) =
      some (id, .text (.source segment) breaks)) (stop : Nat) :
    growText a id segment breaks stop = some
      (Assembly.touch { a with
        document :=
          a.document.setElement id (.text (.source (segment.withStop stop)) breaks) } stop) := by
  let grown : Element := .text (.source (segment.withStop stop)) breaks
  have hgrown := hrecorded.setElement hmap (show grown.kind = .text from rfl)
  rw [growText]
  simp only [modify_eq (hfound id (found_of_map_element hmap).1), Option.bind_eq_bind,
    Option.bind_some]
  exact touch_eq hgrown stop

/-- A new text goes where inline content goes. -/
theorem newText_eq (hbefore : range.start ≤ source.length) {start : Nat}
    (hstart : Spelling.textStart? source range.start = some start) :
    let opened := a.openInlines source start
    let value := Value.source ⟨start, range.stop⟩
    newText source a range = some
      { (opened.add opened.top (.plainText value) ⟨start, range.stop⟩ false).touch range.stop with
        growingText := some opened.document.size } := by
  have hlength := Nat.le_trans (Spelling.textStart?_le hstart) hbefore
  have hopen := hrecorded.openInlines hlength
  have hadded := hrecorded.addText hlength range.stop
  simp only [newText, hstart, Option.bind_eq_bind, Option.bind_some, openInlines_eq hrecorded,
    add_eq hopen hopen.top_lt_size, touch_eq hadded]
  rfl

/-- So a text can be taken in. -/
theorem text_eq (hgrowing : ∀ id, a.growingText = some id → id < a.document.size)
    (hrange : range.isWithin source) (content : String) :
    text source a range content = some (a.text source range content) := by
  obtain ⟨start, hstart⟩ := exists_textStart hrange
  have hnew := newText_eq hrecorded (Segment.start_le_of_isWithin hrange) hstart
  rw [text, Assembly.text]
  cases hcode : a.code with
  | some code =>
      have hcollected : ({ a with code := some (code ++ content.toList) } : Assembly).Recorded
          source stops := hrecorded.of_document_eq rfl rfl rfl rfl
      exact touch_eq hcollected range.stop
  | none =>
      simp only [topElement_eq hrecorded, Option.bind_eq_bind, Option.bind_some,
        element?_eq hgrowing, hstart]
      by_cases hautoLink : a.topElement.kind = .autoLink
      · rw [if_pos hautoLink, if_pos hautoLink]
        rfl
      · rw [if_neg hautoLink, if_neg hautoLink]
        -- Only a text that is a piece of the source goes on.
        cases hmap : a.growingText.map fun id => (id, (a.document.node id).element) with
        | none => exact hnew
        | some found =>
            obtain ⟨id, element⟩ := found
            cases element with
            | text value breaks =>
                cases value with
                | owned => exact hnew
                | source segment =>
                    have hgrown := growText_eq hrecorded hgrowing hmap range.stop
                    rw [hcode] at hgrown
                    exact hgrown
            | _ => exact hnew

/-- A text that is growing is the last child of the innermost open node, so it is there. -/
theorem growingText_lt_size (hsteady : a.IsSteady) :
    ∀ id, a.growingText = some id → id < a.document.size := by
  obtain ⟨label, trees, outer, hpoised, hgrows⟩ := hsteady
  intro id hid
  obtain ⟨front, inner, children, rfl, -, rfl⟩ := hgrows id hid
  exact (hrecorded.lastChild_lt _ _ hpoised.stands.lastChild_concat).2

/-- Each event that stays within the source can be taken in. -/
theorem take_eq (hsteady : a.IsSteady) {placed : PlacedEvent}
    (hrange : placed.range.isWithin source) :
    take source a placed = some (a.take source placed) := by
  have hsettled : a.settle.Recorded source stops := hrecorded.of_document_eq rfl rfl rfl rfl
  have hstart := Segment.start_le_of_isWithin hrange
  obtain ⟨event, range⟩ := placed
  cases event with
  | text content =>
      exact text_eq hrecorded (growingText_lt_size hrecorded hsteady) hrange content
  | opened tag => exact opened_eq hsettled hstart tag
  | closed tag => exact closed_eq hsettled hrange tag
  | code content => exact codeSpan_eq hsettled hstart content
  | html content => exact htmlLine_eq hsettled hstart content
  | inlineHtml content => exact inlineHtml_eq hsettled hstart content
  | softBreak | hardBreak => exact lineBreak_eq hsettled hstart _
  | rule => exact rule_eq hsettled hstart
  | other => rfl

/-- So can all of them, one after the other. -/
theorem foldlM_take_eq_foldl (hsteady : a.IsSteady) {events : List PlacedEvent}
    (hevents : ∀ placed ∈ events, placed.range.isWithin source) :
    events.foldlM (take source) a = some (events.foldl (Assembly.take source) a) := by
  induction events generalizing a stops with
  | nil => rfl
  | cons placed rest ih =>
      obtain ⟨hplaced, hrest⟩ := List.forall_mem_cons.mp hevents
      rw [List.foldlM_cons, take_eq hrecorded hsteady hplaced, List.foldl_cons]
      exact ih (hrecorded.take hplaced) (hsteady.take placed) hrest

end Steps

/-- Events that stay within the source never lead to a look-up of what is not there, whether
they are nested or not. At any time there is an end of content for each node, and the open
nodes and the text that is growing are nodes of the document. -/
theorem foldlM_take_eq_ofEvents {source : Bytes} {events : List PlacedEvent}
    (hevents : ∀ placed ∈ events, placed.range.isWithin source) :
    let a := Assembly.ofEvents source events
    events.foldlM (take source) {} = some a ∧
      a.contentEnd.size = a.document.size ∧
      (∀ id ∈ a.openNodes ++ [root], id < a.document.size) ∧
      ∀ id, a.growingText = some id → id < a.document.size := by
  have hstart := Assembly.Recorded.start source
  have hrecorded := hstart.foldl_take hevents
  have hsteady : (Assembly.ofEvents source events).IsSteady :=
    Assembly.isSteady_start.foldl_take events
  exact ⟨foldlM_take_eq_foldl hstart Assembly.isSteady_start hevents,
    hrecorded.size_contentEnd, hrecorded.open_lt, growingText_lt_size hrecorded hsteady⟩

/-- A paragraph, a heading of blanks and number signs, and an item with an escape. -/
def looseSource : Bytes :=
  Utf8.ofString "a\n\n  ## ##\n\\*b\n"

/-- Events that are not nested: ends without a start, and an item without an end. -/
def looseEvents : List PlacedEvent :=
  [⟨.closed .heading, ⟨0, 15⟩⟩, ⟨.opened .paragraph, ⟨0, 2⟩⟩, ⟨.text "a", ⟨0, 1⟩⟩,
    ⟨.closed .other, ⟨0, 2⟩⟩, ⟨.closed .codeBlock, ⟨0, 2⟩⟩, ⟨.opened (.heading 2), ⟨3, 11⟩⟩,
    ⟨.closed .heading, ⟨3, 11⟩⟩, ⟨.opened .item, ⟨11, 15⟩⟩, ⟨.text "*", ⟨12, 13⟩⟩,
    ⟨.text "b", ⟨13, 14⟩⟩, ⟨.rule, ⟨15, 15⟩⟩]

/-- Events that are not nested at all make three blocks. -/
theorem foldlM_take_eq_ofEvents_loose :
    (∀ placed ∈ looseEvents, placed.range.isWithin looseSource) ∧
    ∃ a, looseEvents.foldlM (take looseSource) {} = some a ∧
      a.document.childKinds root = [.paragraph, .heading, .listItem] ∧
      a.contentEnd.size = a.document.size := by
  have hevents : ∀ placed ∈ looseEvents, placed.range.isWithin looseSource := by decide +kernel
  obtain ⟨hrun, hsize, -, -⟩ := foldlM_take_eq_ofEvents hevents
  exact ⟨hevents, _, hrun, by decide +kernel, hsize⟩

/-- A heading that goes beyond the source is looked up in vain. -/
example : ([⟨.closed .heading, ⟨0, 16⟩⟩].foldlM (take looseSource) {}).isSome = false := by
  decide +kernel

end MarkdownFormat.Checked
