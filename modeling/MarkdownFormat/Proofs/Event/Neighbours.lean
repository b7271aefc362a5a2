/-
# Neighbours in assembled documents

What the rendering of a document relies on to keep its blocks apart. Whatever the events are,
the document that they make has only kinds that a reader reports, its links lead through rows
of children, a walk comes to every node, and blank lines are marked wherever two neighbours
would run into each other.
-/

import MarkdownFormat.Proofs.Document.Traversal
import MarkdownFormat.Proofs.Document.VisitOrder
import MarkdownFormat.Proofs.Event.BlankBefore
import MarkdownFormat.Proofs.Event.Constructs
import MarkdownFormat.Proofs.Event.Structure

namespace MarkdownFormat

/-- The kinds of nodes that stand for something a reader reports: those of the core, struck-out
text and constructs that documents do not model. -/
def Kind.IsReported : Kind → Prop
  | .custom name block =>
      custom name block = .strikethrough ∨ custom name block = .unsupported
  | _ => True

/-- The elements of tags are among those kinds. -/
theorem Tag.isReported_element (tag : Tag) (source : Bytes) (range : Segment) :
    (tag.element source range).kind.IsReported := by
  cases tag with
  | strikethrough => exact .inl rfl
  | other => exact .inr rfl
  | link form destination title => cases form <;> trivial
  | _ => trivial

namespace Assembly

variable {source : Bytes} {a b : Assembly}

/-- All nodes are of kinds that a reader reports. -/
structure IsReported (a : Assembly) : Prop where
  kind : ∀ id, (a.document.kind id).IsReported

namespace IsReported

variable (hreported : a.IsReported)
include hreported

/-- The document is all that counts. -/
theorem congr (hdocument : b.document = a.document) : b.IsReported :=
  ⟨hdocument ▸ hreported.kind⟩

/-- A node may get an element of such a kind. -/
theorem setElement (id : NodeId) {element : Element} (helement : element.kind.IsReported) :
    IsReported { a with document := a.document.setElement id element } := by
  refine ⟨fun k => ?_⟩
  show ((a.document.modify id ({ · with element })).node k).element.kind.IsReported
  rw [Document.node_modify]
  split
  · exact helement
  · exact hreported.kind k

/-- Content lines do not change kinds. -/
theorem setLines (lines : List Value) : (a.setLines lines).IsReported := by
  refine ⟨fun k => ?_⟩
  show ((a.document.modify a.top ({ · with lines })).node k).element.kind.IsReported
  rw [Document.node_modify]
  split <;> exact hreported.kind k

/-- Nor do ranges. -/
theorem touch (stop : Nat) : (a.touch stop).IsReported :=
  hreported.congr (document_touch stop)

/-- Nor does it matter which nodes are open, when one more is. -/
theorem push (id : NodeId) : (a.push id).IsReported :=
  hreported.congr (document_push id)

/-- Nor when one less is. -/
theorem pop : a.pop.IsReported :=
  hreported.congr document_pop

/-- Nor when a text block ends. -/
theorem closeTextBlock : a.closeTextBlock.IsReported :=
  hreported.congr document_closeTextBlock

/-- A node of such a kind may be added. -/
theorem add (parent : NodeId) {element : Element} (helement : element.kind.IsReported)
    (range : Segment) (blankBefore : Bool) :
    (a.add parent element range blankBefore).IsReported := by
  refine ⟨fun k => ?_⟩
  rw [Document.kind, document_add, (Document.content_appendNew _ _ _ _ k).1]
  split
  · exact helement
  · exact hreported.kind k

/-- A block of such a kind may be opened. -/
theorem openBlock {element : Element} (helement : element.kind.IsReported) (range : Segment) :
    (a.openBlock source element range).IsReported := by
  rw [Assembly.openBlock]
  exact (hreported.closeTextBlock.add _ helement range _).push _

/-- The text block that inline content may need is of such a kind. -/
theorem openInlines (start : Nat) : (a.openInlines source start).IsReported := by
  rw [Assembly.openInlines]
  split
  · have htextBlock : Element.textBlock.kind.IsReported := trivial
    exact hreported.openBlock htextBlock _
  · exact hreported

/-- An inline node of such a kind may be added. -/
theorem addInline {element : Element} (helement : element.kind.IsReported) (range : Segment) :
    (a.addInline source element range).IsReported := by
  rw [Assembly.addInline]
  exact (hreported.openInlines range.start).add _ helement range false

/-- One that stays open may be added, too. -/
theorem openInline {element : Element} (helement : element.kind.IsReported) (range : Segment) :
    (a.openInline source element range).IsReported := by
  rw [Assembly.openInline]
  exact ((hreported.openInlines range.start).add _ helement range false).push _

/-- The start of a construct adds nodes for its tag. -/
theorem opened (range : Segment) (tag : Tag) : (a.opened source range tag).IsReported := by
  have helement := tag.isReported_element source range
  rw [opened_eq]
  split
  · exact hreported.openInline helement range
  · split
    · have hcollecting : ({ a with code := some [] } : Assembly).IsReported := hreported.congr rfl
      exact hcollecting.openBlock helement range
    · exact hreported.openBlock helement range

/-- The end of a construct sets content lines. -/
theorem finish (range : Segment) (tag : EndTag) : (a.finish source range tag).IsReported := by
  cases tag with
  | codeBlock =>
      have hset : ∀ lines, ({ a.setLines lines with code := none } : Assembly).IsReported :=
        fun lines => (hreported.setLines lines).congr rfl
      rw [Assembly.finish]
      dsimp only
      split
      · exact (hset _).touch range.stop
      · exact hset _
  | heading =>
      rw [Assembly.finish]
      split
      · exact (hreported.setLines _).touch range.stop
      · exact hreported.congr rfl
  | htmlBlock => exact (hreported.setLines a.html).congr rfl
  | other => exact hreported

/-- A text adds at most a text node and the text block around it. -/
theorem text (range : Segment) (content : String) :
    (a.text source range content).IsReported := by
  rw [Assembly.text]
  split
  · next code _ =>
      have hcollected : ({ a with code := some (code ++ content.toList) } : Assembly).IsReported :=
        hreported.congr rfl
      exact hcollected.touch range.stop
  · split
    · exact hreported
    · split
      · next id segment breaks _ =>
          have hgrown : (Element.text (.source (segment.withStop range.stop))
              breaks).kind.IsReported := trivial
          exact (hreported.setElement id hgrown).touch range.stop
      · split
        · exact hreported.congr rfl
        · next start _ =>
            have hopened : (a.openInlines source start).IsReported := hreported.openInlines start
            have hnew : (Element.plainText (.source ⟨start, range.stop⟩)).kind.IsReported := trivial
            have hadded := (hopened.add (a.openInlines source start).top hnew
              ⟨start, range.stop⟩ false).touch range.stop
            dsimp only
            exact hadded.congr rfl

/-- A code span is added with a text inside of it. -/
theorem codeSpan (range : Segment) (content : String) :
    (a.codeSpan source range content).IsReported := by
  have hspan : Element.codeSpan.kind.IsReported := trivial
  have htext : (Element.plainText (.owned content)).kind.IsReported := trivial
  rw [Assembly.codeSpan]
  exact (((hreported.openInlines range.start).add _ hspan range false).touch range.stop).add _
    htext range false

/-- Inline HTML is added as raw HTML. -/
theorem inlineHtml (range : Segment) (content : String) :
    (a.inlineHtml source range content).IsReported := by
  have hhtml : ∀ segments, (Element.rawHtml segments).kind.IsReported := fun _ => trivial
  rw [Assembly.inlineHtml]
  exact (hreported.addInline (hhtml _) range).touch range.stop

/-- A line of an HTML block adds no node. -/
theorem htmlLine (range : Segment) (content : String) :
    (a.htmlLine source range content).IsReported := by
  rw [Assembly.htmlLine]
  split
  · exact (hreported.touch range.stop).congr rfl
  · exact hreported.inlineHtml range content

/-- A line break is marked at a text that is there, or adds an empty one. -/
theorem lineBreak (range : Segment) (breaks : LineBreaks) :
    (a.lineBreak source range breaks).IsReported := by
  have htext : ∀ value, (Element.text value breaks).kind.IsReported := fun _ => trivial
  have hopened : (a.openInlines source range.start).IsReported := hreported.openInlines _
  rw [Assembly.lineBreak]
  split
  · exact hopened.setElement _ (htext _)
  · exact hopened.addInline (htext _) range

/-- A thematic break is added. -/
theorem rule (range : Segment) : (a.rule source range).IsReported := by
  have hrule : Element.thematicBreak.kind.IsReported := trivial
  rw [Assembly.rule]
  exact ((hreported.openBlock hrule range).touch range.stop).pop

/-- Every event makes nodes of such kinds. -/
theorem take (placed : PlacedEvent) : (Assembly.take source a placed).IsReported := by
  obtain ⟨event, range⟩ := placed
  have hsettled : a.settle.IsReported := hreported.congr rfl
  cases event with
  | text content => exact hreported.text range content
  | opened tag => exact hsettled.opened range tag
  | closed tag => exact (hsettled.closeTextBlock.finish range tag).pop
  | code content => exact hsettled.codeSpan range content
  | html content => exact hsettled.htmlLine range content
  | inlineHtml content => exact hsettled.inlineHtml range content
  | softBreak | hardBreak => exact hsettled.lineBreak range _
  | rule => exact hsettled.rule range
  | other => exact hsettled

/-- So it is after any events. -/
theorem foldl_take (events : List PlacedEvent) :
    (events.foldl (Assembly.take source) a).IsReported := by
  induction events generalizing a with
  | nil => exact hreported
  | cons placed rest ih => exact ih (hreported.take placed)

end IsReported

/-- Before the first event only the root is there. -/
theorem isReported_start : ({} : Assembly).IsReported := by
  refine ⟨fun id => ?_⟩
  rw [Document.kind, Document.node_empty]
  trivial

end Assembly

namespace Document

/-- What the neighbours in a document are parted by. -/
structure IsParted (doc : Document) : Prop where
  /-- The links lead through rows of children. -/
  row : ∀ id, doc.Row id none (doc.node id).firstChild (doc.children id)
  /-- Walking the document comes to every node once. -/
  entered_eq : entered (doc.callsTo doc.size root) = List.range doc.size
  previous_root : (doc.node root).previous = none
  isReported : ∀ id, (doc.kind id).IsReported
  /-- Blank lines stand between neighbours that would run into each other. -/
  blankBefore : ∀ {id previous}, (doc.node id).previous = some previous →
    (doc.kind id).isBlock → (doc.kind previous).KeepsApart (doc.kind id) →
    (doc.node id).blankBefore

/-- Where there is no node, there is a row without any. -/
theorem row_of_size_le {doc : Document} {id : NodeId} (hid : doc.size ≤ id) :
    doc.Row id none (doc.node id).firstChild (doc.children id) := by
  have hnode := node_of_size_le hid
  rw [children_eq_nil (by rw [hasChildren, hnode]; rfl)]
  exact ⟨by rw [hnode], by rw [hnode]⟩

/-- Events make a document with parted neighbours. -/
theorem exists_ofEvents_isParted {source : Bytes} {events : List PlacedEvent}
    (hevents : ∀ placed ∈ events, placed.range.isWithin source) :
    ∃ doc, ofEvents? source events = some doc ∧ doc.IsParted := by
  have hrecorded := (Assembly.Recorded.start source).foldl_take hevents
  have hreported : (Assembly.ofEvents source events).IsReported :=
    Assembly.isReported_start.foldl_take events
  have hsteady : (Assembly.ofEvents source events).IsSteady :=
    Assembly.isSteady_start.foldl_take events
  obtain ⟨label, trees, outer, hpoised, -⟩ := hsteady
  obtain ⟨top, children, hbuilt, hshaped, -⟩ := hpoised.fits.exists_root
    (fun htop => hpoised.full (Element.kind_eq_textBlock.mp htop)) hpoised.stands
  rw [← Assembly.ofEvents] at hrecorded
  have hdoc : ofEvents? source events = some (Assembly.ofEvents source events).document :=
    if_neg (by simp [hrecorded.astray_eq])
  have hroot := previous_root_ofEvents hevents hdoc
  refine ⟨_, hdoc, ?_⟩
  generalize Assembly.ofEvents source events = a at hrecorded hreported hbuilt hroot
  refine ⟨fun id => ?_, ?_, hroot, hreported.kind, ?_⟩
  · by_cases hid : id < a.document.size
    · exact hbuilt.row hshaped hid
    · exact row_of_size_le (Nat.le_of_not_lt hid)
  · have hwalk := hbuilt.walk_noteEntered
    rw [walk, walkTo_noteEntered] at hwalk
    exact (EStateM.Result.ok.inj hwalk).2
  · intro id previous hprevious hblock hapart
    exact (hrecorded.blankBefore_iff id).mpr ⟨hblock, previous, hprevious, .inl hapart⟩

end Document

end MarkdownFormat
