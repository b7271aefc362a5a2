/-
# What single events add

Each event that neither opens nor closes a construct is taken in as the part that it is.
All but texts end the text before them, so that a later text starts anew.
-/

import MarkdownFormat.Proofs.Event.Growth

namespace MarkdownFormat

open Document (leaf)

/-- Inline content of an item stands in a text block, and not in the item. -/
theorem Label.element_host_ne_listItem (label : Label) : label.host.element ≠ .listItem := by
  unfold Label.host
  split
  · simp
  · assumption

namespace Assembly

variable {source : Bytes} {a b : Assembly} {label : Label} {outer : List Shelf}
  {contents : Contents}

/-- Outside of an item, inline content needs no text block. -/
theorem openInlines_of_ne (hitem : a.topElement ≠ .listItem) (start : Nat) :
    a.openInlines source start = a := by
  rw [openInlines, if_neg hitem]

section LineBreak

variable {range : Segment} {breaks : LineBreaks}

/-- Behind a text without a mark, a line break marks it. -/
theorem lineBreak_of_unmarked_text {opened : Assembly} {id : NodeId} {value : Value}
    (hopened : a.openInlines source range.start = opened)
    (hlast : (opened.document.node opened.top).lastChild = some id)
    (helement : (opened.document.node id).element = .text value {}) :
    a.lineBreak source range breaks =
      { opened with document := opened.document.setElement id (.text value breaks) } := by
  simp only [lineBreak, hopened, hlast, helement, Option.map_some]

/-- Behind anything else, a line break is an empty text with a mark. -/
theorem lineBreak_of_no_unmarked_text {opened : Assembly}
    (hopened : a.openInlines source range.start = opened)
    (hlast : ∀ id, (opened.document.node opened.top).lastChild = some id →
      ∀ value, (opened.document.node id).element ≠ .text value {}) :
    a.lineBreak source range breaks = opened.addInline source (.text .empty breaks) range := by
  simp only [lineBreak, hopened]
  split
  · next id value hsome =>
      obtain ⟨hid, helement⟩ := found_of_map_element hsome
      exact absurd helement (hlast id hid value)
  · rfl

end LineBreak

namespace IsAt

/-- The innermost open node is that of the construct, or the text block of an item. -/
theorem topElement_cases (hat : a.IsAt source label outer contents) :
    a.topElement = label.element ∨ label.element = .listItem ∧ a.topElement = .textBlock := by
  have hstands := hat.stands
  rw [Contents.shelves] at hstands
  split at hstands
  · exact .inl hstands.topElement_eq
  · have htop := hstands.topElement_eq
    rw [Label.host] at htop
    split at htop
    · next hitem => exact .inr ⟨hitem, htop⟩
    · exact .inl htop

/-- Outside of HTML blocks, the innermost open node is none. -/
theorem kind_topElement_ne_htmlBlock (hat : a.IsAt source label outer contents) :
    a.topElement.kind ≠ .htmlBlock := by
  rcases hat.topElement_cases with htop | ⟨-, htop⟩
  · rw [htop]
    exact hat.not_htmlBlock
  · rw [htop]
    simp [Element.kind]

/-- Inside of an address, the innermost open node is the address. -/
theorem kind_topElement_eq_autoLink (hat : a.IsAt source label outer contents) :
    a.topElement.kind = .autoLink ↔ label.element.kind = .autoLink := by
  rcases hat.topElement_cases with htop | ⟨hitem, htop⟩
  · rw [htop]
  · rw [htop, hitem]
    simp [Element.kind]

/-- Between the texts there is nothing to remember. -/
theorem settle (hat : a.IsAt source label outer contents) :
    a.settle.IsAt source label outer contents.settle where
  stands := by
    have hshelves : contents.settle.shelves source label outer =
        contents.shelves source label outer := by
      simp only [Contents.shelves, Contents.inlineShelves, Contents.around, Contents.settle,
        OpenRow.all_settle]
    rw [hshelves]
    exact hat.stands.congr rfl rfl
  memory_eq := by
    rw [Contents.settle, OpenRow.isGrowing_settle, memory_eq_iff]
    exact ⟨rfl, (memory_eq_iff.mp hat.memory_eq).2⟩
  tidy := by
    have htidy : (contents.place source label.element .nothing).Tidy label.element :=
      hat.tidy.place rfl
    rwa [Contents.place_nothing] at htidy
  not_textBlock := hat.not_textBlock
  not_htmlBlock := hat.not_htmlBlock

/-- When the text before has ended, nothing is remembered. -/
theorem memory_settle (hat : a.IsAt source label outer contents) :
    a.settle.memory = (none, none, [], false) := by
  rw [hat.settle.memory_eq, Contents.settle, OpenRow.isGrowing_settle]
  rfl

section Added

variable (hat : a.IsAt source label outer contents)

include hat

/-- A block is opened behind what is there. -/
theorem openBlock (element : Element) (range : Segment) :
    (a.openBlock source element range).Stands
      (⟨{ element }, []⟩ :: contents.blockShelves source label outer) :=
  Stands.open hat.closeTextBlock _ _ _

/-- An inline node is opened behind what is there, in a text block if it is in an item. -/
theorem openInline (element : Element) (range : Segment) :
    (a.openInline source element range).Stands
      (⟨{ element }, []⟩ :: contents.inlineShelves source label outer) :=
  Stands.open (hat.openInlines range.start) _ _ _

/-- An inline node is added in the same way. -/
theorem addInline (element : Element) (range : Segment) :
    (a.addInline source element range).Stands
      (⟨label.host, contents.run.all source ++ [leaf element]⟩ ::
        contents.around label outer) :=
  Stands.add (hat.openInlines range.start) _ _ _

variable (hmemory : a.memory = (none, none, [], false))

include hmemory

/-- A code span holds its content as a text. -/
theorem codeSpan (range : Segment) (content : String) :
    (a.codeSpan source range content).IsAt source label outer
      (contents.place source label.element
        (.inline (.node { element := .codeSpan } [leaf (.plainText (.owned content))]))) := by
  have hspan := (hat.openInline .codeSpan range).add (.plainText (.owned content)) range false
  apply hat.place_inline
  · apply hspan.pop.congr
    · simp only [Assembly.codeSpan, Assembly.openInline, document_pop, document_add,
        document_touch, document_push, top_push]
    · simp only [Assembly.codeSpan, Assembly.openInline, openNodes_pop, openNodes_add,
        openNodes_touch, openNodes_push, List.tail_cons]
  · simp [Assembly.codeSpan, hmemory]
  · rfl

/-- Inline HTML is a part of its own. -/
theorem inlineHtml (range : Segment) (content : String) :
    (a.inlineHtml source range content).IsAt source label outer
      (contents.place source label.element
        (PlacedEvent.part source ⟨.inlineHtml content, range⟩)) := by
  apply hat.place_inline
  · exact (hat.addInline _ range).touch _
  · simp [Assembly.inlineHtml, hmemory]
  · rfl

/-- A thematic break is a part of its own. -/
theorem rule (range : Segment) :
    (a.rule source range).IsAt source label outer
      (contents.place source label.element (.block (leaf .thematicBreak))) := by
  apply hat.place_block
  · exact ((hat.openBlock .thematicBreak range).touch _).pop
  · simp [Assembly.rule, hmemory]
  · rfl

/-- Outside of HTML blocks, a line of HTML is inline HTML. -/
theorem htmlLine (range : Segment) (content : String) :
    (a.htmlLine source range content).IsAt source label outer
      (contents.place source label.element (PlacedEvent.part source ⟨.html content, range⟩)) := by
  rw [Assembly.htmlLine, if_neg hat.kind_topElement_ne_htmlBlock]
  exact hat.inlineHtml hmemory range content

/-- A line break marks the text before it, or comes with an empty text. -/
theorem lineBreak (range : Segment) {breaks : LineBreaks} (hbreaks : breaks ≠ {}) :
    (a.lineBreak source range breaks).IsAt source label outer
      (contents.place source label.element (.lineBreak breaks)) := by
  have hopen := hat.openInlines range.start
  have hopened : (a.openInlines source range.start).memory = (none, none, [], false) := by
    rw [memory_openInlines, hmemory]
  have htidy : (contents.run.place source (.lineBreak breaks)).Tidy :=
    hat.tidy.run.place (by simp [Part.isMarked, hbreaks])
  have hplace : contents.place source label.element (.lineBreak breaks) =
      { contents with run := contents.run.place source (.lineBreak breaks) } := by
    simp [Contents.place, Part.isNoText]
  rw [hplace]
  cases htext : contents.run.text with
  | some text =>
      have hrun : contents.run.place source (.lineBreak breaks) =
          ⟨contents.run.trees ++ [textTree source text.1 breaks], none⟩ := by
        simp [OpenRow.place, htext]
      have hall : contents.run.all source =
          contents.run.trees ++ [textTree source text.1 {}] := by
        simp [OpenRow.all, htext]
      rw [Contents.inlineShelves, hall] at hopen
      rw [hrun] at htidy ⊢
      rw [lineBreak_of_unmarked_text rfl hopen.lastChild_concat hopen.element_last]
      apply hat.of_inlineShelves
      · rw [OpenRow.all_none]
        exact hopen.setElement_last _
      · simp
      · exact hopened
      · exact htidy
  | none =>
      have hrun : contents.run.place source (.lineBreak breaks) =
          ⟨contents.run.trees ++ [breakTree breaks], none⟩ := by
        simp [OpenRow.place, htext]
      have hall : contents.run.all source = contents.run.trees := by
        simp [OpenRow.all, htext]
      rw [Contents.inlineShelves, hall] at hopen
      rw [hrun] at htidy ⊢
      rw [lineBreak_of_no_unmarked_text rfl, Assembly.addInline, openInlines_of_ne]
      · apply hat.of_inlineShelves
        · rw [OpenRow.all_none]
          exact hopen.add _ _ _
        · simp
        · rw [memory_add]
          exact hopened
        · exact htidy
      · rw [hopen.topElement_eq]
        exact label.element_host_ne_listItem
      · intro id hlast value helement
        rcases List.eq_nil_or_concat contents.run.trees with hnil | ⟨front, last, hconcat⟩
        · rw [hopen.lastChild_eq, hnil] at hlast
          cases hlast
        · obtain ⟨inner, children⟩ := last
          rw [List.concat_eq_append] at hconcat
          rw [hconcat] at hopen
          rw [hopen.lastChild_concat] at hlast
          cases hlast
          rw [hopen.element_last] at helement
          have hunmarked := hat.tidy.run htext (.node inner children) (by simp [hconcat])
          simp [Tree.isUnmarked, Tree.label, helement] at hunmarked

end Added

end IsAt

section Text

variable (range : Segment) (content : String)

/-- A text that is growing becomes longer. -/
theorem text_of_growing {id : NodeId} {segment : Segment} {breaks : LineBreaks}
    (hcode : a.code = none) (hautoLink : a.topElement.kind ≠ .autoLink)
    (hgrowing : a.growingText = some id)
    (helement : (a.document.node id).element = .text (.source segment) breaks) :
    (a.text source range content).document =
        a.document.setElement id (.text (.source (segment.withStop range.stop)) breaks) ∧
      (a.text source range content).openNodes = a.openNodes ∧
      (a.text source range content).memory = a.memory := by
  simp only [text, hcode, if_neg hautoLink, hgrowing, helement, Option.map_some, document_touch,
    openNodes_touch, memory_touch, true_and]
  simp only [memory, hcode, hgrowing]

/-- Otherwise a new text starts. -/
theorem text_of_settled {opened : Assembly} {start : Nat} (hcode : a.code = none)
    (hautoLink : a.topElement.kind ≠ .autoLink) (hgrowing : a.growingText = none)
    (hstart : Spelling.textStart? source range.start = some start)
    (hopened : a.openInlines source start = opened) :
    (a.text source range content).document =
        (opened.add opened.top (.plainText (.source ⟨start, range.stop⟩)) ⟨start, range.stop⟩
          false).document ∧
      (a.text source range content).openNodes = opened.openNodes ∧
      (a.text source range content).memory =
        (some opened.document.size, opened.memory.2) := by
  simp only [text, hcode, if_neg hautoLink, hgrowing, hstart, hopened, Option.map_none,
    document_touch, openNodes_touch, openNodes_add, true_and]
  simp only [memory, touch, add]

end Text

/-- Up to the end of the source there are texts. -/
theorem exists_textStart {range : Segment} (hrange : range.isWithin source) :
    ∃ start, Spelling.textStart? source range.start = some start := by
  simp only [Segment.isWithin, Bool.and_eq_true, decide_eq_true_eq] at hrange
  unfold Spelling.textStart?
  split
  · exact ⟨0, rfl⟩
  · next before hbefore =>
      have hlength : before < source.length := by omega
      rw [List.getElem?_eq_getElem hlength]
      split
      · next hnone => cases hnone
      · split
        · exact ⟨_, rfl⟩
        · exact ⟨_, rfl⟩

namespace IsAt

section Texts

variable (hat : a.IsAt source label outer contents) {range : Segment}
  (hautoLink : label.element.kind ≠ .autoLink)

include hat hautoLink

/-- Two texts that follow one another become one. -/
theorem text_of_growing {last : Segment} (htext : contents.run.text = some (last, true))
    (content : String) :
    (a.text source range content).IsAt source label outer
      { contents with run := contents.run.place source (.text range) } := by
  have hall : contents.run.all source = contents.run.trees ++ [textTree source last {}] := by
    simp [OpenRow.all, htext]
  have hstands := hat.stands
  rw [Contents.shelves, if_neg (by simp [hall]), Contents.inlineShelves, hall] at hstands
  have hmemory := hat.memory_eq
  rw [if_pos (by simp [OpenRow.isGrowing, htext]), hstands.lastChild_concat] at hmemory
  obtain ⟨hgrowing, hcode, -, -⟩ := memory_eq_iff.mp hmemory
  have hset := hstands.setElement_last
    (textTree source ⟨last.start, range.stop⟩ {}).label.element
  have hrun : contents.run.place source (.text range) =
      ⟨contents.run.trees, some (⟨last.start, range.stop⟩, true)⟩ := by
    simp [OpenRow.place, htext]
  have htidy : (contents.run.place source (.text range)).Tidy := hat.tidy.run.place rfl
  obtain ⟨hdocument, hopenNodes, hremembered⟩ := Assembly.text_of_growing range content
    hcode (mt hat.kind_topElement_eq_autoLink.mp hautoLink) hgrowing hstands.element_last
  have hgrown := hset.congr hdocument hopenNodes
  rw [hrun] at htidy ⊢
  apply hat.of_inlineShelves
  · rw [OpenRow.all_some]
    exact hgrown
  · simp
  · rw [hremembered, hgrown.lastChild_concat, top_eq_of_openNodes hopenNodes]
    exact hat.memory_eq.trans (by simp [OpenRow.isGrowing, htext, hstands.lastChild_concat])
  · exact htidy

/-- Elsewhere a new text starts. -/
theorem text_of_settled (htext : contents.run.isGrowing = false)
    (hrange : range.isWithin source) (content : String) :
    (a.text source range content).IsAt source label outer
      { contents with run := contents.run.place source (.text range) } := by
  obtain ⟨start, hstart⟩ := exists_textStart hrange
  have hopen := hat.openInlines start
  have hmemory := hat.memory_eq
  rw [htext] at hmemory
  obtain ⟨hgrowing, hcode, -, -⟩ := memory_eq_iff.mp hmemory
  have hrun : contents.run.place source (.text range) =
      ⟨contents.run.all source, some (range, true)⟩ := by
    rw [OpenRow.place]
    split
    · next hsome => simp [OpenRow.isGrowing, hsome] at htext
    · rfl
  have htidy : (contents.run.place source (.text range)).Tidy := hat.tidy.run.place rfl
  obtain ⟨hdocument, hopenNodes, hremembered⟩ := Assembly.text_of_settled range content
    hcode (mt hat.kind_topElement_eq_autoLink.mp hautoLink) hgrowing hstart rfl
  have hadd := (hopen.add (.plainText (.source ⟨start, range.stop⟩)) ⟨start, range.stop⟩
    false).congr hdocument (hopenNodes.trans (openNodes_add _ _ _ _).symm)
  rw [hrun] at htidy ⊢
  apply hat.of_inlineShelves
  · rw [OpenRow.all_some, textTree, hstart]
    exact hadd
  · simp
  · rw [hremembered, hadd.lastChild_concat, top_eq_of_openNodes hopenNodes, ← hopen.size_eq,
      memory_openInlines, hat.memory_eq]
    rfl
  · exact htidy

end Texts

/-- A text goes on with the text before it, or is added. -/
theorem text (hat : a.IsAt source label outer contents) {range : Segment}
    (hrange : range.isWithin source) (content : String) :
    (a.text source range content).IsAt source label outer
      (contents.place source label.element (.text range)) := by
  by_cases hautoLink : label.element.kind = .autoLink
  · have hitem : label.element ≠ .listItem := by
      intro hitem
      rw [hitem] at hautoLink
      cases hautoLink
    have hcode := (memory_eq_iff.mp hat.memory_eq).2.1
    have hplace : contents.place source label.element (.text range) = contents := by
      simp [Contents.place, hitem, hautoLink, Part.isNoText]
    have htext : a.text source range content = a := by
      simp only [Assembly.text, hcode, if_pos (hat.kind_topElement_eq_autoLink.mpr hautoLink)]
    rw [hplace, htext]
    exact hat
  · have hplace : contents.place source label.element (.text range) =
        { contents with run := contents.run.place source (.text range) } := by
      simp [Contents.place, hautoLink]
    rw [hplace]
    rcases htext : contents.run.text with _ | ⟨last, _ | _⟩
    · exact hat.text_of_settled hautoLink (by simp [OpenRow.isGrowing, htext]) hrange content
    · exact hat.text_of_settled hautoLink (by simp [OpenRow.isGrowing, htext]) hrange content
    · exact hat.text_of_growing hautoLink htext content

/-- A part that is no text ends the text before it. -/
theorem of_settle {part : Part}
    (hat : a.IsAt source label outer (contents.settle.place source label.element part))
    (hpart : part.isNoText) :
    a.IsAt source label outer (contents.place source label.element part) := by
  rwa [contents.place_settle hpart] at hat

/-- Every event that neither opens nor closes a construct is taken in as a part. -/
theorem take_single (hat : a.IsAt source label outer contents) {placed : PlacedEvent}
    (hrange : placed.range.isWithin source) (hsingle : placed.event.isSingle) :
    (a.take source placed).IsAt source label outer
      (contents.place source label.element (placed.part source)) := by
  obtain ⟨event, range⟩ := placed
  have hsettled := hat.settle
  have hmemory := hat.memory_settle
  cases event with
  | opened tag => cases hsingle
  | closed tag => cases hsingle
  | text content => exact hat.text hrange content
  | code content => exact (hsettled.codeSpan hmemory range content).of_settle rfl
  | html content => exact (hsettled.htmlLine hmemory range content).of_settle rfl
  | inlineHtml content => exact (hsettled.inlineHtml hmemory range content).of_settle rfl
  | softBreak => exact (hsettled.lineBreak hmemory range (by decide)).of_settle rfl
  | hardBreak => exact (hsettled.lineBreak hmemory range (by decide)).of_settle rfl
  | rule => exact (hsettled.rule hmemory range).of_settle rfl
  | other =>
      show a.settle.IsAt source label outer (contents.place source label.element .nothing)
      rw [Contents.place_nothing]
      exact hsettled

end IsAt

end Assembly

end MarkdownFormat
