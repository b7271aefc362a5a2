/-
# Values between boundaries

If the ranges of the events begin and end at boundaries, no step of an assembly leads
astray, and all segments that its document and its memory hold begin and end at boundaries,
too. The events need not be nested: content lines may end up at any node.
-/

import MarkdownFormat.Proofs.Document.Edit
import MarkdownFormat.Proofs.Event.Constructs
import MarkdownFormat.Proofs.Event.Spelling
import MarkdownFormat.Proofs.Render.Routine

namespace MarkdownFormat

open Utf8 (IsBoundary IsText)

variable {source : Bytes}

/-- Whether the segment of a value, if it has one, begins and ends at boundaries. -/
def Value.IsWhole (source : Bytes) : Value → Prop
  | .source segment => segment.IsWhole source
  | .owned _ => True

/-- A text of its own has no ends in the source. -/
theorem Value.isWhole_owned (text : String) : (owned text).IsWhole source :=
  trivial

/-- The bytes between two boundaries are text. -/
theorem Value.IsWhole.isText_bytes {value : Value} (hvalue : value.IsWhole source) :
    IsText (value.bytes source) := by
  cases value with
  | source segment => exact Segment.IsWhole.isText_bytes hvalue
  | owned text => exact Utf8.isText_encode text.toList

/-- Whether all values of an element are whole. -/
def Element.IsWhole (source : Bytes) (element : Element) : Prop :=
  ∀ value ∈ element.values, value.IsWhole source

namespace Element

/-- An element without values has no ends to look at. -/
theorem isWhole_of_values_eq_nil {element : Element} (hnone : element.values = []) :
    element.IsWhole source := by
  rw [IsWhole, hnone]
  exact List.forall_mem_nil _

/-- The one value of a text decides, whatever breaks follow it. -/
theorem isWhole_text {value : Value} {breaks : LineBreaks} :
    (text value breaks).IsWhole source ↔ value.IsWhole source :=
  List.forall_mem_singleton

/-- The one value of an address decides. -/
theorem isWhole_autoLink {url : Value} :
    (autoLink url).IsWhole source ↔ url.IsWhole source :=
  List.forall_mem_singleton

/-- The one value of raw HTML decides. -/
theorem isWhole_rawHtml_singleton {value : Value} :
    (rawHtml [value]).IsWhole source ↔ value.IsWhole source :=
  List.forall_mem_singleton

end Element

/-- Whether all values of a node are whole, also content lines that are not written. -/
structure Node.IsWhole (source : Bytes) (node : Node) : Prop where
  element : node.element.IsWhole source
  lines : ∀ line ∈ node.lines, line.IsWhole source

/-- Content lines and the values of the element are all that a node holds. -/
theorem Node.IsWhole.values {node : Node} (hnode : node.IsWhole source) :
    ∀ value ∈ node.values, value.IsWhole source := by
  intro value hvalue
  rcases List.mem_append.mp hvalue with hvalue | hvalue
  · exact hnode.element value hvalue
  · split at hvalue
    · exact hnode.lines value hvalue
    · cases hvalue

namespace Document

/-- Whether all values in a document are whole. -/
def IsWhole (source : Bytes) (doc : Document) : Prop :=
  ∀ id, (doc.node id).IsWhole source

namespace IsWhole

variable {doc : Document} (hdoc : doc.IsWhole source)
include hdoc

/-- A node may be changed to another whose values are whole. -/
theorem modify (id : NodeId) {change : Node → Node}
    (hchange : ∀ node, node.IsWhole source → (change node).IsWhole source) :
    (doc.modify id change).IsWhole source := by
  intro k
  rw [node_modify]
  split
  · exact hchange _ (hdoc k)
  · exact hdoc k

/-- A node may get an element with whole values. -/
theorem setElement (id : NodeId) {element : Element} (helement : element.IsWhole source) :
    (doc.setElement id element).IsWhole source :=
  hdoc.modify id fun _ hnode => ⟨helement, hnode.lines⟩

/-- A node may get content lines that are whole. -/
theorem setLines (id : NodeId) {lines : List Value}
    (hlines : ∀ line ∈ lines, line.IsWhole source) : (doc.setLines id lines).IsWhole source :=
  hdoc.modify id fun _ hnode => ⟨hnode.element, hlines⟩

/-- A node may be added whose element has whole values. -/
theorem appendNew (parent : NodeId) {element : Element} (helement : element.IsWhole source)
    (range : Segment) (blankBefore : Bool) :
    (doc.appendNew parent element range blankBefore).IsWhole source := by
  intro k
  obtain ⟨hnew, hlines⟩ := @content_appendNew doc parent element range blankBefore k
  constructor
  · rw [hnew]
    split
    · exact helement
    · exact (hdoc k).element
  · rw [hlines]
    split
    · exact List.forall_mem_nil _
    · exact (hdoc k).lines

end IsWhole

end Document

/-- Whether an event opens an autolink, with a web address or a mail address. -/
def Event.opensAutoLink : Event → Bool
  | .opened (.link .autolink _ _) | .opened (.link .email _ _) => true
  | _ => false

/-- Whether the range of an event begins and ends at boundaries, and that of an autolink
with angle brackets. -/
structure PlacedEvent.IsWhole (source : Bytes) (placed : PlacedEvent) : Prop where
  start_le_stop : placed.range.start ≤ placed.range.stop
  range : placed.range.IsWhole source
  angled : placed.event.opensAutoLink →
    (placed.range.bytes source).head? = some 0x3C ∧
      (placed.range.bytes source).getLast? = some 0x3E

instance (source : Bytes) (placed : PlacedEvent) : Decidable (placed.IsWhole source) :=
  decidable_of_iff
    (placed.range.start ≤ placed.range.stop ∧ placed.range.IsWhole source ∧
      (placed.event.opensAutoLink →
        (placed.range.bytes source).head? = some 0x3C ∧
          (placed.range.bytes source).getLast? = some 0x3E))
    ⟨fun ⟨hle, hrange, hangled⟩ => ⟨hle, hrange, hangled⟩,
      fun h => ⟨h.start_le_stop, h.range, h.angled⟩⟩

/-- A tag has values only where its range ends at boundaries. -/
theorem Tag.isWhole_element {tag : Tag} {range : Segment}
    (hplaced : PlacedEvent.IsWhole source ⟨.opened tag, range⟩) :
    (tag.element source range).IsWhole source := by
  have haddress : (Event.opened tag).opensAutoLink →
      Segment.IsWhole source ⟨range.start + 1, range.stop - 1⟩ := fun hopens =>
    Spelling.isWhole_address hplaced.range (hplaced.angled hopens).1 (hplaced.angled hopens).2
  cases tag with
  | link form destination title =>
      cases form with
      | autolink | email => exact Element.isWhole_autoLink.mpr (haddress rfl)
      | inline | reference => exact Element.isWhole_of_values_eq_nil rfl
  | fencedCode info =>
      intro value hvalue
      have hvalue : value ∈ (if info = "" then none else some (Value.owned info)).toList := hvalue
      rw [Option.mem_toList] at hvalue
      obtain ⟨-, hvalue⟩ := Option.ite_none_left_eq_some.mp hvalue
      cases hvalue
      trivial
  | _ => exact Element.isWhole_of_values_eq_nil rfl

namespace Assembly

/-- Whether an assembly is not astray and holds whole values only. -/
structure IsWhole (source : Bytes) (a : Assembly) : Prop where
  document : a.document.IsWhole source
  html : ∀ line ∈ a.html, line.IsWhole source
  astray : a.astray = false

namespace IsWhole

variable {a b : Assembly}

/-- The document and what is remembered of texts and lines are all that counts. -/
theorem of_memory (hwhole : a.IsWhole source) (hdocument : b.document.IsWhole source)
    (hmemory : b.memory.2.2 = a.memory.2.2) : b.IsWhole source := by
  obtain ⟨hhtml, hastray⟩ := Prod.mk.inj hmemory
  exact ⟨hdocument, hhtml ▸ hwhole.html, hastray.trans hwhole.astray⟩

/-- So open nodes and their ranges do not count. -/
theorem congr (hwhole : a.IsWhole source) (hdocument : b.document = a.document)
    (hmemory : b.memory.2.2 = a.memory.2.2) : b.IsWhole source :=
  hwhole.of_memory (hdocument ▸ hwhole.document) hmemory

variable (hwhole : a.IsWhole source)
include hwhole

/-- Ranges do not count. -/
theorem touch (stop : Nat) : (a.touch stop).IsWhole source :=
  hwhole.congr (document_touch stop) (by rw [memory_touch])

/-- Nor does which nodes are open, when one more is. -/
theorem push (id : NodeId) : (a.push id).IsWhole source :=
  hwhole.congr (document_push id) (by rw [memory_push])

/-- Nor when one less is. -/
theorem pop : a.pop.IsWhole source :=
  hwhole.congr document_pop (by rw [memory_pop])

/-- Nor when a text block ends. -/
theorem closeTextBlock : a.closeTextBlock.IsWhole source :=
  hwhole.congr document_closeTextBlock (by rw [memory_closeTextBlock])

/-- A node is added to the document, and nothing is remembered of it. -/
theorem add (parent : NodeId) {element : Element} (helement : element.IsWhole source)
    (range : Segment) (blankBefore : Bool) :
    (a.add parent element range blankBefore).IsWhole source := by
  apply hwhole.of_memory
  · rw [document_add]
    exact hwhole.document.appendNew parent helement range blankBefore
  · rw [memory_add]

/-- A block is added at the end of the innermost open node. -/
theorem openBlock {element : Element} (helement : element.IsWhole source) (range : Segment) :
    (a.openBlock source element range).IsWhole source := by
  rw [Assembly.openBlock]
  exact (hwhole.closeTextBlock.add _ helement range _).push _

/-- Inline content may need a text block, which has no values. -/
theorem openInlines (start : Nat) : (a.openInlines source start).IsWhole source := by
  rw [Assembly.openInlines]
  split
  · exact hwhole.openBlock (Element.isWhole_of_values_eq_nil rfl) _
  · exact hwhole

/-- An inline node is added behind such a text block. -/
theorem addInline {element : Element} (helement : element.IsWhole source) (range : Segment) :
    (a.addInline source element range).IsWhole source := by
  rw [Assembly.addInline]
  exact (hwhole.openInlines range.start).add _ helement range false

/-- An inline node that stays open is added the same way. -/
theorem openInline {element : Element} (helement : element.IsWhole source) (range : Segment) :
    (a.openInline source element range).IsWhole source := by
  rw [Assembly.openInline]
  exact ((hwhole.openInlines range.start).add _ helement range false).push _

/-- Content lines are set at the innermost open node. -/
theorem setLines {lines : List Value} (hlines : ∀ line ∈ lines, line.IsWhole source) :
    (a.setLines lines).IsWhole source :=
  hwhole.of_memory (hwhole.document.setLines a.top hlines) (by rw [memory_setLines])

/-- An element is changed in the document, and what is remembered stays. -/
theorem setElement (id : NodeId) {element : Element} (helement : element.IsWhole source) :
    IsWhole source { a with document := a.document.setElement id element } :=
  hwhole.of_memory (hwhole.document.setElement id helement) rfl

/-- The start of a construct adds nodes for its tag. -/
theorem opened {tag : Tag} {range : Segment}
    (hplaced : PlacedEvent.IsWhole source ⟨.opened tag, range⟩) :
    (a.opened source range tag).IsWhole source := by
  have helement := Tag.isWhole_element hplaced
  rw [opened_eq]
  split
  · exact hwhole.openInline helement range
  · split
    · have hcollecting : ({ a with code := some [] } : Assembly).IsWhole source :=
        hwhole.congr rfl rfl
      exact hcollecting.openBlock helement range
    · exact hwhole.openBlock helement range

/-- The end of a construct gives content lines to a node: gathered ones, or those of its range. -/
theorem finish (tag : EndTag) {range : Segment} (hle : range.start ≤ range.stop)
    (hrange : range.IsWhole source) : (a.finish source range tag).IsWhole source := by
  cases tag with
  | codeBlock =>
      have hlines : ∀ line ∈ (cutAfter (· == '\n') (a.code.getD [])).map fun line =>
          Value.owned (String.ofList line), line.IsWhole source := by
        intro value hvalue
        obtain ⟨line, -, rfl⟩ := List.mem_map.mp hvalue
        trivial
      have hset : ({ a.setLines _ with code := none } : Assembly).IsWhole source :=
        (hwhole.setLines hlines).congr rfl rfl
      rw [Assembly.finish]
      dsimp only
      split
      · exact hset.touch range.stop
      · exact hset
  | heading =>
      obtain ⟨lines, hlines, hwholeLines⟩ := Spelling.exists_headingLines hrange hle
      simp only [Assembly.finish, hlines]
      refine (hwhole.setLines ?_).touch range.stop
      intro value hvalue
      obtain ⟨line, hline, rfl⟩ := List.mem_map.mp hvalue
      exact hwholeLines line hline
  | htmlBlock =>
      have hset := hwhole.setLines hwhole.html
      exact ⟨hset.document, List.forall_mem_nil _, hset.astray⟩
  | other => exact hwhole

/-- With a construct ends the innermost open node. -/
theorem closed (tag : EndTag) {range : Segment} (hle : range.start ≤ range.stop)
    (hrange : range.IsWhole source) : (a.closed source range tag).IsWhole source :=
  (hwhole.closeTextBlock.finish tag hle hrange).pop

/-- A text adds a segment of its range, makes the last text longer, or is gathered as code. -/
theorem text {range : Segment} (hrange : range.IsWhole source) (content : String) :
    (a.text source range content).IsWhole source := by
  rw [Assembly.text]
  split
  · next code _ =>
      have hcollected :
          ({ a with code := some (code ++ content.toList) } : Assembly).IsWhole source :=
        hwhole.congr rfl rfl
      exact hcollected.touch range.stop
  · split
    · exact hwhole
    · split
      · next id segment breaks hfound =>
          have hlast := (hwhole.document id).element
          rw [(found_of_map_element hfound).2, Element.isWhole_text] at hlast
          have hsegment : segment.IsWhole source := hlast
          have hgrown : (Value.source (segment.withStop range.stop)).IsWhole source :=
            ⟨hsegment.start, hrange.stop⟩
          exact (hwhole.setElement id (Element.isWhole_text.mpr hgrown)).touch range.stop
      · obtain ⟨start, hstart, hboundary⟩ :=
          Spelling.exists_textStart_isBoundary hrange.start
        have hsegment : (Value.source ⟨start, range.stop⟩).IsWhole source :=
          ⟨hboundary, hrange.stop⟩
        have hnew : (Element.plainText (.source ⟨start, range.stop⟩)).IsWhole source :=
          Element.isWhole_text.mpr hsegment
        have hadded := ((hwhole.openInlines start).add (a.openInlines source start).top hnew
          ⟨start, range.stop⟩ false).touch range.stop
        simp only [hstart]
        generalize ((a.openInlines source start).add _ _ _ false).touch range.stop = added
          at hadded
        exact hadded.congr rfl rfl

/-- A code span has its content as a text of its own. -/
theorem codeSpan (range : Segment) (content : String) :
    (a.codeSpan source range content).IsWhole source := by
  rw [Assembly.codeSpan]
  refine add (touch (add (hwhole.openInlines range.start) _ ?_ range false) range.stop) _ ?_
    range false
  · exact Element.isWhole_of_values_eq_nil rfl
  · exact Element.isWhole_text.mpr (Value.isWhole_owned content)

/-- Inline HTML is its range. -/
theorem inlineHtml {range : Segment} (hrange : range.IsWhole source) (content : String) :
    (a.inlineHtml source range content).IsWhole source := by
  rw [Assembly.inlineHtml]
  refine (hwhole.addInline (Element.isWhole_rawHtml_singleton.mpr ?_) range).touch range.stop
  split
  · exact hrange
  · trivial

/-- A line of an HTML block is remembered by its range. -/
theorem htmlLine {range : Segment} (hrange : range.IsWhole source) (content : String) :
    (a.htmlLine source range content).IsWhole source := by
  rw [Assembly.htmlLine]
  split
  · have htouched := hwhole.touch range.stop
    refine ⟨htouched.document, ?_, htouched.astray⟩
    rw [List.forall_mem_append]
    exact ⟨htouched.html, List.forall_mem_singleton.mpr hrange⟩
  · exact hwhole.inlineHtml hrange content

/-- A line break is marked at a text that is there, or adds an empty one. -/
theorem lineBreak (range : Segment) (breaks : LineBreaks) :
    (a.lineBreak source range breaks).IsWhole source := by
  have hopened := hwhole.openInlines range.start
  rw [Assembly.lineBreak]
  split
  · next id value hfound =>
      have hlast := (hopened.document id).element
      rw [(found_of_map_element hfound).2] at hlast
      exact hopened.setElement id hlast
  · exact hopened.addInline (Element.isWhole_text.mpr (Value.isWhole_owned "")) range

/-- A thematic break has no values. -/
theorem rule (range : Segment) : (a.rule source range).IsWhole source :=
  ((hwhole.openBlock (Element.isWhole_of_values_eq_nil rfl) range).touch range.stop).pop

/-- Every event with a whole range leaves the assembly whole. -/
theorem take {placed : PlacedEvent} (hplaced : placed.IsWhole source) :
    (Assembly.take source a placed).IsWhole source := by
  obtain ⟨event, range⟩ := placed
  have hsettled : a.settle.IsWhole source := hwhole.congr rfl rfl
  cases event with
  | text content => exact hwhole.text hplaced.range content
  | opened tag => exact hsettled.opened hplaced
  | closed tag => exact hsettled.closed tag hplaced.start_le_stop hplaced.range
  | code content => exact hsettled.codeSpan range content
  | html content => exact hsettled.htmlLine hplaced.range content
  | inlineHtml content => exact hsettled.inlineHtml hplaced.range content
  | softBreak | hardBreak => exact hsettled.lineBreak range _
  | rule => exact hsettled.rule range
  | other => exact hsettled

/-- So it is after any events. -/
theorem foldl_take {events : List PlacedEvent}
    (hevents : ∀ placed ∈ events, placed.IsWhole source) :
    (events.foldl (Assembly.take source) a).IsWhole source := by
  induction events generalizing a with
  | nil => exact hwhole
  | cons placed rest ih =>
      obtain ⟨hplaced, hrest⟩ := List.forall_mem_cons.mp hevents
      exact ih (hwhole.take hplaced) hrest

end IsWhole

/-- Before the first event there are no values. -/
theorem isWhole_start : ({} : Assembly).IsWhole source := by
  refine ⟨fun id => ?_, List.forall_mem_nil _, rfl⟩
  rw [Document.node_empty]
  exact ⟨Element.isWhole_of_values_eq_nil rfl, List.forall_mem_nil _⟩

end Assembly

/-- Events with whole ranges make a document, and its values are whole. -/
theorem Document.exists_ofEvents_isWhole {events : List PlacedEvent}
    (hevents : ∀ placed ∈ events, placed.IsWhole source) :
    ∃ document, Document.ofEvents? source events = some document ∧ document.IsWhole source := by
  have hwhole : (Assembly.ofEvents source events).IsWhole source :=
    Assembly.isWhole_start.foldl_take hevents
  refine ⟨_, ?_, hwhole.document⟩
  rw [Document.ofEvents?, hwhole.astray]
  rfl

end MarkdownFormat
