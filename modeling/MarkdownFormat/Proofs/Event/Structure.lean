/-
# What any events make

Events need not be nested at all for the document to come out well: whatever is opened,
closed or left open, inline content in an item is gathered in text blocks, and the open
nodes stay on the way to the last node. `Assembly.Poised` is what every event keeps, and
the structure of the document can be read off it at any time.
-/

import MarkdownFormat.Proofs.Document.Order
import MarkdownFormat.Proofs.Event.Growth

namespace MarkdownFormat

open Document (leaf)

@[simp]
theorem Element.kind_eq_textBlock {element : Element} :
    element.kind = .textBlock ↔ element = .textBlock := by
  cases element <;> simp [Element.kind]

@[simp]
theorem Element.kind_eq_listItem {element : Element} :
    element.kind = .listItem ↔ element = .listItem := by
  cases element <;> simp [Element.kind]

namespace Assembly

variable {source : Bytes} {a b : Assembly} {label inner : Label} {trees children : List Tree}
  {outer : List Shelf}

/-- The open nodes are the given shelves, which fit. -/
structure Fits (a : Assembly) (label : Label) (trees : List Tree) (outer : List Shelf) :
    Prop where
  stands : a.Stands (⟨label, trees⟩ :: outer)
  fits : Shelf.Fits ⟨label, trees⟩ outer

/-- Between two events no open text block is empty, and an open item does not end with a
text block that was closed. -/
structure Poised (a : Assembly) (label : Label) (trees : List Tree) (outer : List Shelf) :
    Prop extends a.Fits label trees outer where
  full : label.element = .textBlock → trees ≠ []
  kept : label.element = .listItem → (trees.map Tree.kind).getLast? ≠ some .textBlock

/-- The open nodes are some shelves that fit, in the way they do between two events. -/
def IsPoised (a : Assembly) : Prop :=
  ∃ label trees outer, a.Poised label trees outer

namespace Fits

/-- The document and the open nodes are all that counts. -/
theorem congr (hfits : a.Fits label trees outer) (hdocument : b.document = a.document)
    (hopenNodes : b.openNodes = a.openNodes) : b.Fits label trees outer :=
  ⟨hfits.stands.congr hdocument hopenNodes, hfits.fits⟩

/-- Around a text block there is an item. -/
theorem exists_item (hfits : a.Fits label trees outer) (htop : label.element = .textBlock) :
    ∃ item rest, outer = item :: rest ∧ item.label.element = .listItem := by
  have haround := hfits.fits.areAround
  have hkind : (⟨label, trees⟩ : Shelf).kind = .textBlock := Element.kind_eq_textBlock.mpr htop
  rw [hkind] at haround
  cases outer with
  | nil => cases haround
  | cons item rest =>
      exact ⟨item, rest, rfl, Element.kind_eq_listItem.mp (haround.1.textBlocks (by simp))⟩

/-- The last child is the last finished tree. -/
theorem exists_last (hfits : a.Fits label trees outer) {id : NodeId}
    (hlast : (a.document.node a.top).lastChild = some id) :
    ∃ front inner children, trees = front ++ [.node inner children] ∧
      id = a.top + 1 + Tree.sizeOfRow front := by
  have hstands := hfits.stands
  rcases List.eq_nil_or_concat' trees with rfl | ⟨front, ⟨inner, children⟩, rfl⟩
  · rw [hstands.lastChild_eq] at hlast
    cases hlast
  · rw [hstands.lastChild_concat] at hlast
    cases hlast
    exact ⟨front, inner, children, rfl, rfl⟩

/-- A node that is closed becomes the last child of the one around it; the root stays
open. -/
theorem pop (hfits : a.Fits inner children outer) (hinner : inner.element ≠ .textBlock) :
    a.pop.IsPoised := by
  cases outer with
  | nil =>
      have hkind : inner.element.kind = .document := hfits.fits.areAround
      have hopen : a.openNodes = [] := by
        have hpath := hfits.stands.surrounds.1
        cases hnodes : a.openNodes with
        | nil => rfl
        | cons id rest => simp [hnodes] at hpath
      refine ⟨inner, children, [], ⟨hfits.congr rfl ?_, ?_, ?_⟩⟩
      · rw [openNodes_pop, hopen, List.tail_nil]
      · intro htop
        exact absurd htop hinner
      · intro htop
        rw [htop] at hkind
        cases hkind
  | cons shelf outer =>
      refine ⟨shelf.label, shelf.trees ++ [.node inner children], outer,
        ⟨⟨hfits.stands.pop, hfits.fits.closed ?_⟩, ?_, ?_⟩⟩
      · rw [Element.kind_eq_textBlock]
        exact fun htop => absurd htop hinner
      · simp
      · intro _
        simp [Tree.kind, Tree.label, hinner]

/-- Content lines are part of a label, and its element stays. -/
theorem setLines (hfits : a.Fits label trees outer) (lines : List Value) :
    ∃ other : Label, other.element = label.element ∧
      (a.setLines lines).Fits other trees outer :=
  ⟨{ label with lines }, rfl, hfits.stands.setLines lines, hfits.fits.relabel rfl⟩

/-- Finishing a node does not make another element of it. -/
theorem finish (hfits : a.Fits label trees outer) (range : Segment) (tag : EndTag) :
    ∃ other : Label, other.element = label.element ∧
      (a.finish source range tag).Fits other trees outer := by
  cases tag with
  | heading =>
      rw [Assembly.finish]
      split
      · next lines _ =>
          obtain ⟨other, helement, hset⟩ := hfits.setLines (lines.map .source)
          exact ⟨other, helement, hset.congr (document_touch _) (openNodes_touch _)⟩
      · exact ⟨label, rfl, hfits.congr rfl rfl⟩
  | codeBlock =>
      simp only [Assembly.finish]
      generalize (cutAfter (· == '\n') (a.code.getD [])).map
        (fun line => Value.owned (String.ofList line)) = lines
      obtain ⟨other, helement, hset⟩ := hfits.setLines lines
      refine ⟨other, helement, hset.congr ?_ ?_⟩
      · split <;> rfl
      · split <;> rfl
  | htmlBlock =>
      obtain ⟨other, helement, hset⟩ := hfits.setLines a.html
      exact ⟨other, helement, hset.congr rfl rfl⟩
  | other => exact ⟨label, rfl, hfits⟩

/-- Outside of an item, inline content needs no text block. -/
theorem openInlines_eq (hfits : a.Fits label trees outer) (htop : label.element ≠ .listItem)
    (start : Nat) : a.openInlines source start = a := by
  rw [Assembly.openInlines, if_neg (hfits.stands.topElement_eq ▸ htop)]

section Inline

variable (hfits : a.Fits label trees outer) (htop : label.element ≠ .listItem)
  {element : Element} (hinline : element.kind.isBlock = false) (range : Segment)
include hfits htop hinline

/-- An inline node is added to anything but an item. -/
theorem add_inline :
    (a.add a.top element range false).Poised label (trees ++ [leaf element]) outer where
  stands := hfits.stands.add element range false
  fits := by
    apply hfits.fits.add (Tree.isShaped_leaf fun h => by rw [h] at hinline; cases hinline)
    exact hfits.fits.admits.concat_inline hinline (mt Element.kind_eq_listItem.mp htop)
  full _ := by simp
  kept hitem := absurd hitem htop

/-- An inline node is opened inside anything but an item. -/
theorem open_inline :
    ((a.add a.top element range false).push a.document.size).Poised { element } []
      (⟨label, trees⟩ :: outer) where
  stands := hfits.stands.open element range false
  fits := hfits.fits.opened
    (hfits.fits.admits.concat_inline hinline (mt Element.kind_eq_listItem.mp htop))
  full htextBlock := by
    have htextBlock : element = .textBlock := htextBlock
    rw [htextBlock] at hinline
    cases hinline
  kept _ := by simp

end Inline

/-- A text that is the last child may become another one. -/
theorem setText_last (hfits : a.Fits label (trees ++ [.node inner children]) outer)
    (hinner : inner.element.kind = .text) {element : Element} (helement : element.kind = .text) :
    Poised
      { a with
        document := a.document.setElement (a.top + 1 + Tree.sizeOfRow trees) element }
      label (trees ++ [.node { inner with element } children]) outer where
  stands := hfits.stands.setElement_last element
  fits := hfits.fits.setElement_last (helement.trans hinner.symm)
  full _ := by simp
  kept _ := by simp [Tree.kind, Tree.label, helement]

end Fits

/-- The document and the open nodes are all that counts. -/
theorem Poised.congr (hpoised : a.Poised label trees outer)
    (hdocument : b.document = a.document) (hopenNodes : b.openNodes = a.openNodes) :
    b.Poised label trees outer :=
  ⟨hpoised.toFits.congr hdocument hopenNodes, hpoised.full, hpoised.kept⟩

/-- So it is without naming the shelves. -/
theorem IsPoised.congr (hpoised : a.IsPoised) (hdocument : b.document = a.document)
    (hopenNodes : b.openNodes = a.openNodes) : b.IsPoised := by
  obtain ⟨label, trees, outer, hpoised⟩ := hpoised
  exact ⟨label, trees, outer, hpoised.congr hdocument hopenNodes⟩

/-- Ranges do not count. -/
theorem IsPoised.touch (hpoised : a.IsPoised) (stop : Nat) : (a.touch stop).IsPoised :=
  hpoised.congr (document_touch stop) (openNodes_touch stop)

namespace IsPoised

variable (hpoised : a.IsPoised)
include hpoised

/-- Without the text block of its run, the innermost open node takes blocks. -/
theorem closeTextBlock : ∃ label trees outer,
    a.closeTextBlock.Fits label trees outer ∧ label.element ≠ .textBlock := by
  obtain ⟨label, trees, outer, hpoised⟩ := hpoised
  have htop := hpoised.stands.topElement_eq
  by_cases htextBlock : label.element = .textBlock
  · obtain ⟨item, rest, rfl, hitem⟩ := hpoised.exists_item htextBlock
    rw [Assembly.closeTextBlock, if_pos (htop.trans htextBlock)]
    refine ⟨item.label, item.trees ++ [.node label trees], rest,
      ⟨hpoised.stands.pop, hpoised.fits.closed fun _ => hpoised.full htextBlock⟩, ?_⟩
    simp [hitem]
  · rw [Assembly.closeTextBlock, if_neg (htop ▸ htextBlock)]
    exact ⟨label, trees, outer, hpoised.toFits, htextBlock⟩

/-- An opened block fits into what is open, and is empty. -/
theorem openBlock_fits {element : Element} (hblock : element.kind.isBlock)
    (helement : element ≠ .textBlock) (source : Bytes) (range : Segment) :
    ∃ outer, (a.openBlock source element range).Fits { element } [] outer := by
  obtain ⟨label, trees, outer, hfits, htop⟩ := hpoised.closeTextBlock
  refine ⟨⟨label, trees⟩ :: outer, hfits.stands.open _ _ _, hfits.fits.opened ?_⟩
  exact hfits.fits.admits.concat_block hblock (mt Element.kind_eq_textBlock.mp helement)
    (mt Element.kind_eq_textBlock.mp htop)

/-- So a block may be opened. -/
theorem openBlock {element : Element} (hblock : element.kind.isBlock)
    (helement : element ≠ .textBlock) (range : Segment) :
    (a.openBlock source element range).IsPoised := by
  obtain ⟨outer, hfits⟩ := hpoised.openBlock_fits hblock helement source range
  exact ⟨_, _, outer, hfits, fun htextBlock => absurd htextBlock helement, fun _ => by simp⟩

/-- A block whose code is gathered may be opened, too. -/
theorem openCode {element : Element} (hblock : element.kind.isBlock)
    (helement : element ≠ .textBlock) (range : Segment) :
    (a.openCode source element range).IsPoised := by
  have hcollecting : ({ a with code := some [] } : Assembly).IsPoised := hpoised.congr rfl rfl
  exact hcollecting.openBlock hblock helement range

/-- Inline content finds a node to stand in. -/
theorem openInlines (source : Bytes) (start : Nat) : ∃ label trees outer,
    (a.openInlines source start).Fits label trees outer ∧ label.element ≠ .listItem := by
  obtain ⟨label, trees, outer, hpoised⟩ := hpoised
  have htop := hpoised.stands.topElement_eq
  by_cases hitem : label.element = .listItem
  · have hclosed : a.closeTextBlock = a := by
      rw [Assembly.closeTextBlock, if_neg]
      rw [htop, hitem]
      simp
    rw [Assembly.openInlines, if_pos (htop.trans hitem), Assembly.openBlock, hclosed]
    refine ⟨{ element := .textBlock }, [], ⟨label, trees⟩ :: outer,
      ⟨hpoised.stands.open _ _ _, hpoised.fits.opened ?_⟩, by simp⟩
    have hkind := Element.kind_eq_listItem.mpr hitem
    apply hpoised.fits.admits.concat
    · exact fun _ => rfl
    · intro htextBlock
      rw [Shelf.kind, hkind] at htextBlock
      cases htextBlock
    · exact fun _ => ⟨hkind, hpoised.kept hitem⟩
  · rw [hpoised.toFits.openInlines_eq hitem]
    exact ⟨label, trees, outer, hpoised.toFits, hitem⟩

/-- Inline content goes into what is open, or into a text block of its own. -/
theorem addInline {element : Element} (hinline : element.kind.isBlock = false)
    (range : Segment) : (a.addInline source element range).IsPoised := by
  obtain ⟨label, trees, outer, hfits, htop⟩ := hpoised.openInlines source range.start
  exact ⟨_, _, _, hfits.add_inline htop hinline range⟩

/-- Inline content that stays open does the same. -/
theorem openInline {element : Element} (hinline : element.kind.isBlock = false)
    (range : Segment) : (a.openInline source element range).IsPoised := by
  obtain ⟨label, trees, outer, hfits, htop⟩ := hpoised.openInlines source range.start
  exact ⟨_, _, _, hfits.open_inline htop hinline range⟩

/-- The start of a construct opens nodes for its tag. -/
theorem opened (range : Segment) (tag : Tag) : (a.opened source range tag).IsPoised := by
  cases tag with
  | paragraph | heading | blockQuote | htmlBlock | list | item | other =>
      exact hpoised.openBlock rfl (by simp) range
  | indentedCode | fencedCode => exact hpoised.openCode rfl (by simp) range
  | emphasis | strong | strikethrough | image => exact hpoised.openInline rfl range
  | link form => cases form <;> exact hpoised.openInline rfl range

/-- The end of a construct closes a node, if one is open. -/
theorem closed (range : Segment) (tag : EndTag) : (a.closed source range tag).IsPoised := by
  obtain ⟨label, trees, outer, hclosed, htop⟩ := hpoised.closeTextBlock
  obtain ⟨other, helement, hfinished⟩ := hclosed.finish range tag
  exact hfinished.pop (helement ▸ htop)

/-- A code span is opened, filled and closed at once. -/
theorem codeSpan (range : Segment) (content : String) :
    (a.codeSpan source range content).IsPoised := by
  obtain ⟨label, trees, outer, hfits, htop⟩ := hpoised.openInlines source range.start
  have hspan : Element.codeSpan.kind.isBlock = false := rfl
  have htext : (Element.plainText (.owned content)).kind.isBlock = false := rfl
  have hopened := hfits.open_inline htop hspan range
  have hfilled := hopened.add_inline (by simp) htext range
  apply (hfilled.pop (by simp)).congr
  · simp only [Assembly.codeSpan, document_pop, document_add, document_touch, document_push,
      top_push]
  · simp only [Assembly.codeSpan, openNodes_pop, openNodes_add, openNodes_touch, openNodes_push,
      List.tail_cons]

/-- Inline HTML is inline content. -/
theorem inlineHtml (range : Segment) (content : String) :
    (a.inlineHtml source range content).IsPoised := by
  rw [Assembly.inlineHtml]
  exact (hpoised.addInline rfl range).touch range.stop

/-- A line of an HTML block adds no node; outside of one it is inline content. -/
theorem htmlLine (range : Segment) (content : String) :
    (a.htmlLine source range content).IsPoised := by
  rw [Assembly.htmlLine]
  split
  · exact (hpoised.touch range.stop).congr rfl rfl
  · exact hpoised.inlineHtml range content

/-- A line break is marked at a text that is there, or adds an empty one. -/
theorem lineBreak (range : Segment) (breaks : LineBreaks) :
    (a.lineBreak source range breaks).IsPoised := by
  obtain ⟨label, trees, outer, hfits, htop⟩ := hpoised.openInlines source range.start
  rw [Assembly.lineBreak]
  split
  · next id value hfound =>
      obtain ⟨hlast, helement⟩ := found_of_map_element hfound
      obtain ⟨front, inner, children, rfl, rfl⟩ := hfits.exists_last hlast
      rw [hfits.stands.element_last] at helement
      exact ⟨_, _, _, hfits.setText_last (by rw [helement]; rfl) rfl⟩
  · rw [Assembly.addInline, hfits.openInlines_eq htop]
    exact ⟨_, _, _, hfits.add_inline htop rfl range⟩

/-- A thematic break is a block without content. -/
theorem rule (range : Segment) : (a.rule source range).IsPoised := by
  obtain ⟨outer, hfits⟩ := hpoised.openBlock_fits rfl
    (show Element.thematicBreak ≠ .textBlock by simp) source range
  exact (hfits.congr (document_touch range.stop) (openNodes_touch range.stop)).pop (by simp)

end IsPoised

/-- The text that grows is part of what is remembered. -/
theorem growingText_of_memory (hmemory : b.memory = a.memory) :
    b.growingText = a.growingText :=
  congrArg Prod.fst hmemory

@[simp]
theorem growingText_openBlock (element : Element) (range : Segment) :
    (a.openBlock source element range).growingText = a.growingText :=
  growingText_of_memory (memory_openBlock element range)

@[simp]
theorem growingText_openInlines (start : Nat) :
    (a.openInlines source start).growingText = a.growingText :=
  growingText_of_memory (memory_openInlines start)

@[simp]
theorem growingText_openInline (element : Element) (range : Segment) :
    (a.openInline source element range).growingText = a.growingText :=
  growingText_of_memory (memory_openInline element range)

@[simp]
theorem growingText_addInline (element : Element) (range : Segment) :
    (a.addInline source element range).growingText = a.growingText :=
  growingText_of_memory (memory_addInline element range)

@[simp]
theorem growingText_opened (range : Segment) (tag : Tag) :
    (a.opened source range tag).growingText = a.growingText := by
  cases tag with
  | link form => cases form <;> simp [opened]
  | _ => simp [opened, openCode]

@[simp]
theorem growingText_closed (range : Segment) (tag : EndTag) :
    (a.closed source range tag).growingText = a.growingText := by
  have hfinish : (a.closeTextBlock.finish source range tag).growingText =
      a.closeTextBlock.growingText := by
    cases tag with
    | heading | codeBlock =>
        simp only [finish]
        split <;> rfl
    | htmlBlock | other => rfl
  exact hfinish.trans (growingText_of_memory memory_closeTextBlock)

@[simp]
theorem growingText_codeSpan (range : Segment) (content : String) :
    (a.codeSpan source range content).growingText = a.growingText := by
  simp [codeSpan, add, touch]

@[simp]
theorem growingText_inlineHtml (range : Segment) (content : String) :
    (a.inlineHtml source range content).growingText = a.growingText := by
  simp [inlineHtml, touch]

@[simp]
theorem growingText_htmlLine (range : Segment) (content : String) :
    (a.htmlLine source range content).growingText = a.growingText := by
  rw [htmlLine]
  split
  · rfl
  · exact growingText_inlineHtml range content

@[simp]
theorem growingText_lineBreak (range : Segment) (breaks : LineBreaks) :
    (a.lineBreak source range breaks).growingText = a.growingText := by
  rw [lineBreak]
  split <;> simp

@[simp]
theorem growingText_rule (range : Segment) :
    (a.rule source range).growingText = a.growingText := by
  simp [rule, touch, pop]

/-- Only a text can go on. -/
theorem growingText_take {placed : PlacedEvent} (hevent : ∀ content, placed.event ≠ .text content) :
    (take source a placed).growingText = none := by
  obtain ⟨event, range⟩ := placed
  cases event with
  | text content => exact absurd rfl (hevent content)
  | _ => simp [take]

/-- A text that is growing is the last child of the innermost open node. -/
def Grows (a : Assembly) (trees : List Tree) : Prop :=
  ∀ id, a.growingText = some id → ∃ front inner children,
    trees = front ++ [.node inner children] ∧ inner.element.kind = .text ∧
      id = a.top + 1 + Tree.sizeOfRow front

/-- What holds of an assembly between any two events. -/
def IsSteady (a : Assembly) : Prop :=
  ∃ label trees outer, a.Poised label trees outer ∧ a.Grows trees

/-- Where no text grows, nothing more is asked for. -/
theorem IsPoised.isSteady (hpoised : a.IsPoised) (hgrowing : a.growingText = none) :
    a.IsSteady := by
  obtain ⟨label, trees, outer, hpoised⟩ := hpoised
  refine ⟨label, trees, outer, hpoised, fun id hid => ?_⟩
  rw [hgrowing] at hid
  cases hid

/-- A new text is the last child, and may go on. -/
theorem Fits.startText (hfits : a.Fits label trees outer) (htop : label.element ≠ .listItem)
    (range : Segment) :
    IsSteady
      { (a.add a.top (.plainText (.source range)) range false).touch range.stop with
        growingText := some a.document.size } := by
  have htext : (Element.plainText (.source range)).kind.isBlock = false := rfl
  have hadded := (hfits.add_inline htop htext range).congr (document_touch range.stop)
    (openNodes_touch range.stop)
  have hsame : ((a.add a.top (.plainText (.source range)) range false).touch range.stop).top =
      a.top := top_eq_of_openNodes (by rw [openNodes_touch, openNodes_add])
  generalize (a.add a.top (.plainText (.source range)) range false).touch range.stop = added
    at hadded hsame ⊢
  refine ⟨label, _, outer, hadded.congr rfl rfl, fun id hid => ⟨trees, _, [], rfl, rfl, ?_⟩⟩
  cases hid
  show a.document.size = added.top + 1 + Tree.sizeOfRow trees
  rw [hsame]
  exact hfits.stands.size_eq

/-- A text that goes on stays the last child. -/
theorem Poised.growText (hpoised : a.Poised label trees outer) (hgrows : a.Grows trees)
    {id : NodeId} (hid : a.growingText = some id) (segment : Segment) (breaks : LineBreaks)
    (stop : Nat) :
    (touch { a with document := a.document.setElement id (.text (.source segment) breaks) }
      stop).IsSteady := by
  obtain ⟨front, inner, children, rfl, hinner, rfl⟩ := hgrows id hid
  have htext : (Element.text (.source segment) breaks).kind = .text := rfl
  refine ⟨label, _, outer, (hpoised.setText_last hinner htext).congr (document_touch _)
    (openNodes_touch _), fun other hother => ⟨front, _, children, rfl, htext, ?_⟩⟩
  cases hid.symm.trans hother
  rfl

namespace IsSteady

variable (hsteady : a.IsSteady)
include hsteady

/-- The document, the open nodes and the text that grows are all that counts. -/
theorem congr (hdocument : b.document = a.document) (hopenNodes : b.openNodes = a.openNodes)
    (hgrowing : b.growingText = a.growingText) : b.IsSteady := by
  obtain ⟨label, trees, outer, hpoised, hgrows⟩ := hsteady
  refine ⟨label, trees, outer, hpoised.congr hdocument hopenNodes, ?_⟩
  rwa [Grows, hgrowing, top_eq_of_openNodes hopenNodes]

/-- Steady is more than poised. -/
theorem isPoised : a.IsPoised := by
  obtain ⟨label, trees, outer, hpoised, -⟩ := hsteady
  exact ⟨label, trees, outer, hpoised⟩

/-- A text grows, or a new one starts to. -/
theorem text (range : Segment) (content : String) :
    (a.text source range content).IsSteady := by
  rw [Assembly.text]
  split
  · exact hsteady.congr (document_touch _) (openNodes_touch _) rfl
  · split
    · exact hsteady
    · split
      · next id segment breaks hfound =>
          obtain ⟨label, trees, outer, hpoised, hgrows⟩ := hsteady
          have hgrowing := (found_of_map_element hfound).1
          exact hpoised.growText hgrows hgrowing (segment.withStop range.stop) breaks range.stop
      · split
        · exact hsteady.congr rfl rfl rfl
        · next start _ =>
            obtain ⟨label, trees, outer, hfits, htop⟩ :=
              hsteady.isPoised.openInlines source start
            exact hfits.startText htop ⟨start, range.stop⟩

/-- Every event leaves the assembly as it has to be between two events. -/
theorem take (placed : PlacedEvent) : (Assembly.take source a placed).IsSteady := by
  have hsettled : a.settle.IsPoised := hsteady.isPoised.congr rfl rfl
  by_cases htext : ∃ content, placed.event = .text content
  · obtain ⟨content, htext⟩ := htext
    rw [Assembly.take, htext]
    exact hsteady.text placed.range content
  · have hquiet := @growingText_take source a placed fun content h => htext ⟨content, h⟩
    obtain ⟨event, range⟩ := placed
    apply IsPoised.isSteady ?_ hquiet
    cases event with
    | text content => exact absurd ⟨content, rfl⟩ htext
    | opened tag => exact hsettled.opened range tag
    | closed tag => exact hsettled.closed range tag
    | code content => exact hsettled.codeSpan range content
    | html content => exact hsettled.htmlLine range content
    | inlineHtml content => exact hsettled.inlineHtml range content
    | softBreak | hardBreak => exact hsettled.lineBreak range _
    | rule => exact hsettled.rule range
    | other => exact hsettled

/-- Any events are kept steady with. -/
theorem foldl_take (events : List PlacedEvent) :
    (events.foldl (Assembly.take source) a).IsSteady := by
  induction events generalizing a with
  | nil => exact hsteady
  | cons placed rest ih => exact ih (hsteady.take placed)

end IsSteady

/-- Before the first event only the root is there. -/
theorem isSteady_start : ({} : Assembly).IsSteady := by
  refine ⟨{ element := .document }, [], [], ⟨⟨?_, ⟨.nil, trivial, rfl⟩⟩, ?_, ?_⟩, ?_⟩
  · exact ⟨⟨rfl, rfl⟩, ⟨⟨rfl, rfl⟩, rfl, rfl, trivial⟩, rfl⟩
  · exact nofun
  · exact nofun
  · exact nofun

/-- What can be said of a document and its open nodes at any time. -/
structure IsStructured (a : Assembly) : Prop where
  /-- Each open node but the root is the last child of the one around it. -/
  lastChild_eq : (a.openNodes ++ [Document.root]).IsChain fun inner upper =>
    (a.document.node upper).lastChild = some inner
  /-- Going down from the root leads to every node. -/
  reachable : ∀ id < a.document.size,
    Relation.ReflTransGen a.document.IsChild Document.root id
  /-- A walk enters the nodes in the order of their places. -/
  walk_eq : a.document.walk Document.noteEntered Document.root [] =
    .ok .proceed (List.range a.document.size)
  listItem_children : ∀ id, a.document.kind id = .listItem →
    ∀ child ∈ a.document.children id, (a.document.kind child).isBlock
  textBlock_parent : ∀ id, a.document.kind id = .textBlock →
    ∃ item, (a.document.node id).parent = some item ∧ a.document.IsChild item id ∧
      a.document.kind item = .listItem
  textBlock_children : ∀ id, a.document.kind id = .textBlock →
    a.document.children id ≠ [] ∧
      ∀ child ∈ a.document.children id, (a.document.kind child).isBlock = false
  textBlock_next : ∀ id next, a.document.kind id = .textBlock →
    (a.document.node id).next = some next → a.document.kind next ≠ .textBlock

/-- The structure is read off the trees that a document is made of. -/
theorem IsSteady.isStructured (hsteady : a.IsSteady) : a.IsStructured := by
  obtain ⟨label, trees, outer, hpoised, -⟩ := hsteady
  obtain ⟨top, children, hbuilt, hshaped, hdocument⟩ := hpoised.fits.exists_root
    (fun htop => hpoised.full (Element.kind_eq_textBlock.mp htop)) hpoised.stands
  have hopen := hpoised.stands.surrounds.isChain_lastChild
  rw [← openNodes_eq_top_cons] at hopen
  exact {
    lastChild_eq := hopen
    reachable := fun _ => hbuilt.reachable
    walk_eq := hbuilt.walk_noteEntered
    listItem_children := fun _ => hbuilt.listItem_children hshaped
    textBlock_parent := fun _ => hbuilt.textBlock_parent hshaped hdocument
    textBlock_children := fun _ => hbuilt.textBlock_children hshaped
    textBlock_next := fun _ _ => hbuilt.textBlock_next hshaped hdocument }

/-- Any events, nested or not, make a document of this structure, and every event keeps
it. -/
theorem isStructured_ofEvents (source : Bytes) (events : List PlacedEvent) :
    (ofEvents source events).IsStructured :=
  (isSteady_start.foldl_take events).isStructured

end Assembly

end MarkdownFormat
