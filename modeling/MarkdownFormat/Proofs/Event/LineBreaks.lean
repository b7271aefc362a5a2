/-
# Line breaks

Each line break that a reader reports is one mark in the document: the text before it gets
it, or an empty text is added for it. No other event makes a mark or takes one away, and a
text that has one stays as it is, so a later text never runs into it.
-/

import Mathlib.Data.Finset.Card
import MarkdownFormat.Proofs.Event.BlankBefore
import MarkdownFormat.Proofs.Event.Constructs
import MarkdownFormat.Proofs.Event.Structure

namespace MarkdownFormat

/-- The line break behind an element. Only texts have one. -/
def Element.breaks : Element → LineBreaks
  | .text _ breaks => breaks
  | _ => {}

/-- The line break that an event reports. -/
def Event.breaks : Event → LineBreaks
  | .softBreak => { soft := true }
  | .hardBreak => { hard := true }
  | _ => {}

/-- No event is a line break of both sorts. -/
theorem Event.not_both_breaks (event : Event) : ¬ (event.breaks.soft ∧ event.breaks.hard) := by
  cases event <;> simp [Event.breaks]

/-- The nodes that tags make have no mark. -/
theorem Tag.breaks_element (tag : Tag) (source : Bytes) (range : Segment) :
    (tag.element source range).breaks = {} := by
  cases tag with
  | link form destination title => cases form <;> rfl
  | _ => rfl

namespace Document

variable {doc changed later : Document} {breaks : LineBreaks}

/-- The texts with a line break of some sort behind them. -/
def brokenTexts (doc : Document) (sort : LineBreaks → Bool) : Finset NodeId :=
  (Finset.range doc.size).filter fun id => sort (doc.node id).element.breaks

/-- No mark is made or taken away, and the texts that are marked stay as they are. -/
structure KeepsBreaks (doc changed : Document) : Prop where
  size_le : doc.size ≤ changed.size
  breaks_eq : ∀ id, (changed.node id).element.breaks = (doc.node id).element.breaks
  element_eq : ∀ id, (doc.node id).element.breaks ≠ {} →
    (changed.node id).element = (doc.node id).element

/-- One mark is made, at a text that has none. -/
structure AddsBreak (doc changed : Document) (breaks : LineBreaks) : Prop where
  exists_text : ∃ id, (doc.node id).element.breaks = {} ∧
    (changed.node id).element.breaks = breaks ∧
    ∀ k ≠ id, (changed.node k).element.breaks = (doc.node k).element.breaks
  element_eq : ∀ id, (doc.node id).element.breaks ≠ {} →
    (changed.node id).element = (doc.node id).element

/-- Where there is no node, there is no mark. -/
theorem breaks_of_size_le {id : NodeId} (hid : doc.size ≤ id) :
    (doc.node id).element.breaks = {} := by
  rw [node_of_size_le hid]
  rfl

/-- A text is a node that is there. -/
theorem lt_size_of_text {id : NodeId} {value : Value}
    (htext : (doc.node id).element = .text value breaks) : id < doc.size := by
  by_contra hid
  rw [node_of_size_le (Nat.le_of_not_lt hid)] at htext
  cases htext

/-- The texts with a mark of a sort are all nodes with such a mark. -/
theorem mem_brokenTexts {sort : LineBreaks → Bool} (hsort : sort {} = false) {id : NodeId} :
    id ∈ doc.brokenTexts sort ↔ sort (doc.node id).element.breaks = true := by
  rw [brokenTexts, Finset.mem_filter, Finset.mem_range, and_iff_right_iff_imp]
  intro hmarked
  by_contra hid
  rw [breaks_of_size_le (Nat.le_of_not_lt hid), hsort] at hmarked
  cases hmarked

namespace KeepsBreaks

/-- Without a change all marks are kept. -/
theorem of_eq (hsame : changed = doc) : doc.KeepsBreaks changed := by
  subst hsame
  exact ⟨Nat.le_refl _, fun _ => rfl, fun _ _ => rfl⟩

variable (hkeeps : doc.KeepsBreaks changed)
include hkeeps

/-- What leaves the marked texts of the second document leaves those of the first. -/
theorem element_trans
    (hlater : ∀ id, (changed.node id).element.breaks ≠ {} →
      (later.node id).element = (changed.node id).element)
    (id : NodeId) (hmarked : (doc.node id).element.breaks ≠ {}) :
    (later.node id).element = (doc.node id).element := by
  rw [hlater id (by rwa [hkeeps.breaks_eq]), hkeeps.element_eq id hmarked]

/-- Marks that are kept by two changes are kept by both together. -/
theorem trans (hlater : changed.KeepsBreaks later) : doc.KeepsBreaks later where
  size_le := Nat.le_trans hkeeps.size_le hlater.size_le
  breaks_eq id := (hlater.breaks_eq id).trans (hkeeps.breaks_eq id)
  element_eq := hkeeps.element_trans hlater.element_eq

/-- A mark that is added later is added by both together. -/
theorem adds (hlater : changed.AddsBreak later breaks) : doc.AddsBreak later breaks where
  exists_text := by
    obtain ⟨id, hnone, hmarked, hothers⟩ := hlater.exists_text
    refine ⟨id, (hkeeps.breaks_eq id).symm.trans hnone, hmarked, fun k hk => ?_⟩
    rw [hothers k hk, hkeeps.breaks_eq]
  element_eq := hkeeps.element_trans hlater.element_eq

/-- Where marks are kept, the same texts have them. -/
theorem brokenTexts_eq {sort : LineBreaks → Bool} (hsort : sort {} = false) :
    changed.brokenTexts sort = doc.brokenTexts sort := by
  ext id
  rw [mem_brokenTexts hsort, mem_brokenTexts hsort, hkeeps.breaks_eq]

end KeepsBreaks

/-- An added mark counts once for each of its sorts. -/
theorem AddsBreak.card_brokenTexts (hadds : doc.AddsBreak changed breaks)
    {sort : LineBreaks → Bool} (hsort : sort {} = false) :
    (changed.brokenTexts sort).card =
      (doc.brokenTexts sort).card + if sort breaks then 1 else 0 := by
  obtain ⟨id, hnone, hmarked, hothers⟩ := hadds.exists_text
  have hfresh : id ∉ doc.brokenTexts sort := by
    rw [mem_brokenTexts hsort, hnone, hsort]
    nofun
  by_cases hbreaks : sort breaks = true
  · have hinsert : changed.brokenTexts sort = insert id (doc.brokenTexts sort) := by
      ext k
      rw [Finset.mem_insert, mem_brokenTexts hsort, mem_brokenTexts hsort]
      by_cases hk : k = id
      · simp [hk, hmarked, hbreaks]
      · simp [hk, hothers k hk]
    rw [hinsert, Finset.card_insert_of_notMem hfresh, if_pos hbreaks]
  · have hsame : changed.brokenTexts sort = doc.brokenTexts sort := by
      ext k
      rw [mem_brokenTexts hsort, mem_brokenTexts hsort]
      by_cases hk : k = id
      · rw [hk, hmarked, hnone, hsort]
        simpa using hbreaks
      · rw [hothers k hk]
    rw [hsame, if_neg hbreaks, Nat.add_zero]

section NewElement

variable {id : NodeId} {element : Element} (hnone : (doc.node id).element.breaks = {})
  (hnode : ∀ k, (changed.node k).element = if k = id then element else (doc.node k).element)
include hnone hnode

/-- Where a node without a mark gets another element, the marked texts stay. -/
theorem element_eq_of_marked (k : NodeId) (hmarked : (doc.node k).element.breaks ≠ {}) :
    (changed.node k).element = (doc.node k).element := by
  rw [hnode, if_neg]
  rintro rfl
  exact hmarked hnone

/-- A node without a mark may become another without a mark. -/
theorem keepsBreaks_of_unmarked (hsize : doc.size ≤ changed.size)
    (helement : element.breaks = {}) : doc.KeepsBreaks changed := by
  refine ⟨hsize, fun k => ?_, element_eq_of_marked hnone hnode⟩
  rw [hnode]
  split
  · next hk => rw [helement, hk, hnone]
  · rfl

/-- A node without a mark that gets one adds this mark. -/
theorem addsBreak_of_unmarked : doc.AddsBreak changed element.breaks := by
  refine ⟨⟨id, hnone, ?_, fun k hk => ?_⟩, element_eq_of_marked hnone hnode⟩
  · rw [hnode, if_pos rfl]
  · rw [hnode, if_neg hk]

end NewElement

section AppendNew

variable (parent : NodeId) (range : Segment) (blankBefore : Bool)

/-- Appending a node changes the element at the new place alone. -/
theorem element_appendNew (element : Element) (k : NodeId) :
    ((doc.appendNew parent element range blankBefore).node k).element =
      if k = doc.size then element else (doc.node k).element :=
  (content_appendNew parent element range blankBefore k).1

/-- A new node without a mark. -/
theorem keepsBreaks_appendNew {element : Element} (helement : element.breaks = {}) :
    doc.KeepsBreaks (doc.appendNew parent element range blankBefore) := by
  apply keepsBreaks_of_unmarked (breaks_of_size_le (Nat.le_refl _))
    (element_appendNew parent range blankBefore element) ?size helement
  rw [size_appendNew]
  exact Nat.le_succ _

/-- A new node with a mark. -/
theorem addsBreak_appendNew (element : Element) :
    doc.AddsBreak (doc.appendNew parent element range blankBefore) element.breaks :=
  addsBreak_of_unmarked (breaks_of_size_le (Nat.le_refl _))
    (element_appendNew parent range blankBefore element)

end AppendNew

section SetElement

variable {id : NodeId} (hid : id < doc.size)
include hid

/-- Setting an element changes this element alone. -/
theorem element_setElement (element : Element) (k : NodeId) :
    ((doc.setElement id element).node k).element =
      if k = id then element else (doc.node k).element := by
  rw [setElement, node_modify]
  by_cases hk : k = id
  · simp [hk, hid]
  · simp [hk]

variable (hnone : (doc.node id).element.breaks = {}) (element : Element)
include hnone

/-- An unmarked text becomes another unmarked one. -/
theorem keepsBreaks_setElement (helement : element.breaks = {}) :
    doc.KeepsBreaks (doc.setElement id element) :=
  keepsBreaks_of_unmarked hnone (element_setElement hid element) (by simp [setElement]) helement

/-- An unmarked text is marked. -/
theorem addsBreak_setElement : doc.AddsBreak (doc.setElement id element) element.breaks :=
  addsBreak_of_unmarked hnone (element_setElement hid element)

end SetElement

/-- Content lines have no marks. -/
theorem keepsBreaks_setLines (id : NodeId) (lines : List Value) :
    doc.KeepsBreaks (doc.setLines id lines) := by
  have hnode : ∀ k, ((doc.setLines id lines).node k).element = (doc.node k).element := by
    intro k
    rw [setLines, node_modify]
    split <;> rfl
  exact ⟨by simp [setLines], fun k => by rw [hnode], fun k _ => hnode k⟩

namespace KeepsBreaks

variable {source : Bytes} {a : Assembly} (hkeeps : doc.KeepsBreaks a.document)
include hkeeps

/-- The document is all that counts. -/
theorem congr (hsame : changed = a.document) : doc.KeepsBreaks changed :=
  hsame ▸ hkeeps

/-- Ranges do not count. -/
theorem touch (stop : Nat) : doc.KeepsBreaks (a.touch stop).document :=
  hkeeps.congr (Assembly.document_touch stop)

/-- Nor does it matter when a text block ends. -/
theorem closeTextBlock : doc.KeepsBreaks a.closeTextBlock.document :=
  hkeeps.congr Assembly.document_closeTextBlock

/-- Nor are content lines marked. -/
theorem setLines (lines : List Value) : doc.KeepsBreaks (a.setLines lines).document :=
  hkeeps.trans (keepsBreaks_setLines a.top lines)

/-- A node without a mark may be added. -/
theorem add (parent : NodeId) {element : Element} (helement : element.breaks = {})
    (range : Segment) (blankBefore : Bool) :
    doc.KeepsBreaks (a.add parent element range blankBefore).document := by
  rw [Assembly.document_add]
  exact hkeeps.trans (keepsBreaks_appendNew parent range blankBefore helement)

/-- A node with a mark adds this mark. -/
theorem addMarked (parent : NodeId) (element : Element) (range : Segment) (blankBefore : Bool) :
    doc.AddsBreak (a.add parent element range blankBefore).document element.breaks := by
  rw [Assembly.document_add]
  exact hkeeps.adds (addsBreak_appendNew parent range blankBefore element)

/-- A block without a mark may be opened. -/
theorem openBlock {element : Element} (helement : element.breaks = {}) (range : Segment) :
    doc.KeepsBreaks (a.openBlock source element range).document := by
  rw [Assembly.openBlock, Assembly.document_push]
  exact hkeeps.closeTextBlock.add _ helement range _

/-- The text block that inline content may need has no mark. -/
theorem openInlines (start : Nat) : doc.KeepsBreaks (a.openInlines source start).document := by
  rw [Assembly.openInlines]
  split
  · have htextBlock : Element.textBlock.breaks = {} := rfl
    exact hkeeps.openBlock htextBlock _
  · exact hkeeps

/-- An inline node without a mark may be added. -/
theorem addInline {element : Element} (helement : element.breaks = {}) (range : Segment) :
    doc.KeepsBreaks (a.addInline source element range).document := by
  rw [Assembly.addInline]
  exact (hkeeps.openInlines range.start).add _ helement range false

/-- One that stays open may be added, too. -/
theorem openInline {element : Element} (helement : element.breaks = {}) (range : Segment) :
    doc.KeepsBreaks (a.openInline source element range).document := by
  rw [Assembly.openInline, Assembly.document_push]
  exact (hkeeps.openInlines range.start).add _ helement range false

/-- The start of a construct adds nodes for its tag. -/
theorem opened (range : Segment) (tag : Tag) :
    doc.KeepsBreaks (a.opened source range tag).document := by
  have helement := tag.breaks_element source range
  rw [Assembly.opened_eq]
  split
  · exact hkeeps.openInline helement range
  · split
    · have hcollecting : doc.KeepsBreaks ({ a with code := some [] } : Assembly).document := hkeeps
      rw [Assembly.openCode]
      exact hcollecting.openBlock helement range
    · exact hkeeps.openBlock helement range

/-- The end of a construct sets content lines. -/
theorem finish (range : Segment) (tag : EndTag) :
    doc.KeepsBreaks (a.finish source range tag).document := by
  cases tag with
  | codeBlock =>
      have hset : ∀ lines,
          doc.KeepsBreaks ({ a.setLines lines with code := none } : Assembly).document :=
        fun lines => hkeeps.setLines lines
      rw [Assembly.finish]
      dsimp only
      split
      · exact (hset _).touch range.stop
      · exact hset _
  | heading =>
      rw [Assembly.finish]
      split
      · exact (hkeeps.setLines _).touch range.stop
      · exact hkeeps
  | htmlBlock => exact hkeeps.setLines a.html
  | other => exact hkeeps

/-- A code span is added with an unmarked text inside of it. -/
theorem codeSpan (range : Segment) (content : String) :
    doc.KeepsBreaks (a.codeSpan source range content).document := by
  have hspan : Element.codeSpan.breaks = {} := rfl
  have htext : (Element.plainText (.owned content)).breaks = {} := rfl
  rw [Assembly.codeSpan]
  exact (((hkeeps.openInlines range.start).add _ hspan range false).touch range.stop).add _
    htext range false

/-- Inline HTML is added as raw HTML. -/
theorem inlineHtml (range : Segment) (content : String) :
    doc.KeepsBreaks (a.inlineHtml source range content).document := by
  have hhtml : ∀ segments, (Element.rawHtml segments).breaks = {} := fun _ => rfl
  rw [Assembly.inlineHtml]
  exact (hkeeps.addInline (hhtml _) range).touch range.stop

/-- A line of an HTML block adds no node. -/
theorem htmlLine (range : Segment) (content : String) :
    doc.KeepsBreaks (a.htmlLine source range content).document := by
  rw [Assembly.htmlLine]
  split
  · exact hkeeps.touch range.stop
  · exact hkeeps.inlineHtml range content

/-- A thematic break is added. -/
theorem rule (range : Segment) : doc.KeepsBreaks (a.rule source range).document := by
  have hrule : Element.thematicBreak.breaks = {} := rfl
  rw [Assembly.rule, Assembly.document_pop]
  exact (hkeeps.openBlock hrule range).touch range.stop

/-- A text that grows has no mark, and a new one gets none. -/
theorem text (hgrowing : ∀ id, a.growingText = some id → (a.document.node id).element.breaks = {})
    (range : Segment) (content : String) :
    doc.KeepsBreaks (a.text source range content).document := by
  rw [Assembly.text]
  split
  · next code _ =>
      have hcollected :
          doc.KeepsBreaks ({ a with code := some (code ++ content.toList) } : Assembly).document :=
        hkeeps
      exact hcollected.touch range.stop
  · split
    · exact hkeeps
    · split
      · next id segment breaks hfound =>
          obtain ⟨hid, helement⟩ := Assembly.found_of_map_element hfound
          have hnone := hgrowing id hid
          have hbreaks : breaks = {} := by rwa [helement] at hnone
          rw [Assembly.document_touch]
          exact hkeeps.trans (keepsBreaks_setElement (lt_size_of_text helement) hnone _ hbreaks)
      · split
        · exact hkeeps
        · next start _ =>
            have hnew : (Element.plainText (.source ⟨start, range.stop⟩)).breaks = {} := rfl
            have hopened : doc.KeepsBreaks (a.openInlines source start).document :=
              hkeeps.openInlines start
            dsimp only
            exact (hopened.add _ hnew ⟨start, range.stop⟩ false).touch range.stop

/-- A line break marks the text before it, or an empty one that it adds. -/
theorem lineBreak (range : Segment) (breaks : LineBreaks) :
    doc.AddsBreak (a.lineBreak source range breaks).document breaks := by
  have hopened : doc.KeepsBreaks (a.openInlines source range.start).document :=
    hkeeps.openInlines range.start
  rw [Assembly.lineBreak]
  split
  · next id value hfound =>
      obtain ⟨-, helement⟩ := Assembly.found_of_map_element hfound
      have hnone : ((a.openInlines source range.start).document.node id).element.breaks = {} := by
        rw [helement]
        rfl
      have hid := lt_size_of_text helement
      exact hopened.adds (addsBreak_setElement hid hnone (.text value breaks))
  · exact (hopened.openInlines range.start).addMarked _ (.text .empty breaks) range false

end KeepsBreaks

end Document

namespace Assembly

variable {source : Bytes} {a : Assembly} {placed : PlacedEvent} {events : List PlacedEvent}

/-- A text that is growing either was growing before or is new. -/
theorem growingText_text {range : Segment} {content : String} {id : NodeId}
    (hid : (a.text source range content).growingText = some id) :
    a.growingText = some id ∨ a.document.size ≤ id := by
  rw [Assembly.text] at hid
  split at hid
  · exact .inl (by simpa [touch] using hid)
  · split at hid
    · exact .inl hid
    · split at hid
      · exact .inl (by simpa [touch] using hid)
      · split at hid
        · exact .inl hid
        · next start _ =>
            have hsame : a.document.KeepsBreaks a.document := .of_eq rfl
            have hopened : a.document.KeepsBreaks (a.openInlines source start).document :=
              hsame.openInlines start
            exact .inr (Option.some.inj hid ▸ hopened.size_le)

/-- The marks are those that the events reported, and no text that has one grows. -/
structure CountsBreaks (a : Assembly) (events : List PlacedEvent) : Prop where
  card_eq : ∀ {sort : LineBreaks → Bool}, sort {} = false →
    (a.document.brokenTexts sort).card = events.countP fun placed => sort placed.event.breaks
  not_both : ∀ id, ¬ ((a.document.node id).element.breaks.soft ∧
    (a.document.node id).element.breaks.hard)
  growing : ∀ id, a.growingText = some id → (a.document.node id).element.breaks = {}

/-- In the beginning there are no marks and no events. -/
theorem countsBreaks_start : ({} : Assembly).CountsBreaks [] := by
  have hnone : ∀ id, (({} : Assembly).document.node id).element.breaks = {} := by
    intro id
    rw [Document.node_empty]
    rfl
  refine ⟨fun hsort => ?_, fun id => ?_, fun id _ => hnone id⟩
  · rw [List.countP_nil, Finset.card_eq_zero, Finset.eq_empty_iff_forall_notMem]
    intro id hmem
    rw [Document.mem_brokenTexts hsort, hnone, hsort] at hmem
    cases hmem
  · rw [hnone]
    simp

/-- An event that is a line break adds its mark. -/
theorem addsBreak_take (hbreaks : placed.event.breaks ≠ {}) :
    a.document.AddsBreak (take source a placed).document placed.event.breaks := by
  obtain ⟨event, range⟩ := placed
  have hsettled : a.document.KeepsBreaks a.settle.document := .of_eq rfl
  cases event with
  | softBreak | hardBreak => exact hsettled.lineBreak range _
  | _ => exact absurd rfl hbreaks

namespace CountsBreaks

variable (hcounts : a.CountsBreaks events)
include hcounts

/-- An event that reports no line break leaves all marks. -/
theorem keepsBreaks_take (hbreaks : placed.event.breaks = {}) :
    a.document.KeepsBreaks (take source a placed).document := by
  obtain ⟨event, range⟩ := placed
  have hsame : a.document.KeepsBreaks a.document := .of_eq rfl
  have hsettled : a.document.KeepsBreaks a.settle.document := .of_eq rfl
  cases event with
  | text content => exact hsame.text hcounts.growing range content
  | opened tag => exact hsettled.opened range tag
  | closed tag => exact (hsettled.closeTextBlock.finish range tag).congr document_pop
  | code content => exact hsettled.codeSpan range content
  | html content => exact hsettled.htmlLine range content
  | inlineHtml content => exact hsettled.inlineHtml range content
  | softBreak | hardBreak => cases hbreaks
  | rule => exact hsettled.rule range
  | other => exact hsettled

/-- A text with a mark stays as it is. -/
theorem element_take {id : NodeId} (hmarked : (a.document.node id).element.breaks ≠ {}) :
    ((take source a placed).document.node id).element = (a.document.node id).element := by
  by_cases hbreaks : placed.event.breaks = {}
  · exact (hcounts.keepsBreaks_take hbreaks).element_eq id hmarked
  · exact (addsBreak_take hbreaks).element_eq id hmarked

/-- An event counts as much in the document as it is itself. -/
theorem card_take {sort : LineBreaks → Bool} (hsort : sort {} = false) :
    ((take source a placed).document.brokenTexts sort).card =
      (a.document.brokenTexts sort).card + if sort placed.event.breaks then 1 else 0 := by
  by_cases hbreaks : placed.event.breaks = {}
  · rw [(hcounts.keepsBreaks_take hbreaks).brokenTexts_eq hsort, hbreaks, hsort]
    rfl
  · exact (addsBreak_take hbreaks).card_brokenTexts hsort

/-- Each node keeps its mark or gets that of the event. -/
theorem breaks_take (id : NodeId) :
    ((take source a placed).document.node id).element.breaks =
        (a.document.node id).element.breaks ∨
      ((take source a placed).document.node id).element.breaks = placed.event.breaks := by
  by_cases hbreaks : placed.event.breaks = {}
  · exact .inl ((hcounts.keepsBreaks_take hbreaks).breaks_eq id)
  · have hadds : a.document.AddsBreak (take source a placed).document placed.event.breaks :=
      addsBreak_take hbreaks
    obtain ⟨marked, -, hmarked, hothers⟩ := hadds.exists_text
    by_cases hid : id = marked
    · exact .inr (hid ▸ hmarked)
    · exact .inl (hothers id hid)

/-- The text that the next one may be added to has no mark. -/
theorem growing_take {id : NodeId} (hid : (take source a placed).growingText = some id) :
    ((take source a placed).document.node id).element.breaks = {} := by
  by_cases htext : ∃ content, placed.event = .text content
  · obtain ⟨content, hevent⟩ := htext
    have hkeeps : a.document.KeepsBreaks (take source a placed).document :=
      hcounts.keepsBreaks_take (by rw [hevent]; rfl)
    rw [hkeeps.breaks_eq]
    have hgrown : (a.text source placed.range content).growingText = some id := by
      simpa only [take, hevent] using hid
    cases growingText_text hgrown with
    | inl hbefore => exact hcounts.growing id hbefore
    | inr hnew => exact Document.breaks_of_size_le hnew
  · rw [growingText_take fun content h => htext ⟨content, h⟩] at hid
    cases hid

/-- So the counts agree behind one event more. -/
theorem take (placed : PlacedEvent) :
    (Assembly.take source a placed).CountsBreaks (events ++ [placed]) where
  card_eq hsort := by
    rw [hcounts.card_take hsort, hcounts.card_eq hsort, List.countP_append, List.countP_singleton]
  not_both id := by
    rcases hcounts.breaks_take id with hsame | hnew
    · rw [hsame]
      exact hcounts.not_both id
    · rw [hnew]
      exact placed.event.not_both_breaks
  growing _ hid := hcounts.growing_take hid

/-- They agree behind any events. -/
theorem foldl_take (later : List PlacedEvent) :
    (later.foldl (Assembly.take source) a).CountsBreaks (events ++ later) := by
  induction later generalizing a events with
  | nil => rwa [List.append_nil]
  | cons placed rest ih =>
      rw [List.append_cons]
      exact ih (hcounts.take placed)

/-- A text with a mark stays as it is, whatever the later events are. -/
theorem element_foldl_take (later : List PlacedEvent) {id : NodeId}
    (hmarked : (a.document.node id).element.breaks ≠ {}) :
    ((later.foldl (Assembly.take source) a).document.node id).element =
      (a.document.node id).element := by
  induction later generalizing a events with
  | nil => rfl
  | cons placed rest ih =>
      have hstep : ((Assembly.take source a placed).document.node id).element =
          (a.document.node id).element := hcounts.element_take hmarked
      rw [List.foldl_cons, ih (hcounts.take placed) (by rwa [hstep]), hstep]

end CountsBreaks

end Assembly

namespace Document

/-- Each line break that is reported is the mark of one text, and no text has two. Later
events leave a text with a mark alone. -/
theorem exists_ofEvents_lineBreaks {source : Bytes} {events : List PlacedEvent}
    (hevents : ∀ placed ∈ events, placed.range.isWithin source) :
    ∃ doc, ofEvents? source events = some doc ∧
      (doc.brokenTexts LineBreaks.soft).card =
        events.countP (fun placed => placed.event = .softBreak) ∧
      (doc.brokenTexts LineBreaks.hard).card =
        events.countP (fun placed => placed.event = .hardBreak) ∧
      (∀ id value breaks, (doc.node id).element = .text value breaks →
        ¬ (breaks.soft ∧ breaks.hard)) ∧
      ∀ front back, events = front ++ back → ∀ id value breaks,
        ((Assembly.ofEvents source front).document.node id).element = .text value breaks →
        breaks ≠ {} → (doc.node id).element = .text value breaks := by
  have hrecorded := (Assembly.Recorded.start source).foldl_take hevents
  have hcounts : (Assembly.ofEvents source events).CountsBreaks events :=
    Assembly.countsBreaks_start.foldl_take events
  rw [← Assembly.ofEvents] at hrecorded
  have hdoc : ofEvents? source events = some (Assembly.ofEvents source events).document :=
    if_neg (by simp [hrecorded.astray_eq])
  have hsoft : ∀ event : Event, event.breaks.soft = decide (event = .softBreak) := by
    intro event
    cases event <;> rfl
  have hhard : ∀ event : Event, event.breaks.hard = decide (event = .hardBreak) := by
    intro event
    cases event <;> rfl
  refine ⟨_, hdoc, ?_, ?_, fun id value breaks htext => ?_, ?_⟩
  · rw [hcounts.card_eq rfl]
    simp only [hsoft]
  · rw [hcounts.card_eq rfl]
    simp only [hhard]
  · have hnot := hcounts.not_both id
    rwa [htext] at hnot
  · intro front back hsplit id value breaks htext hbreaks
    subst hsplit
    have hfront : (Assembly.ofEvents source front).CountsBreaks front :=
      Assembly.countsBreaks_start.foldl_take front
    rw [Assembly.ofEvents, List.foldl_append, ← Assembly.ofEvents,
      hfront.element_foldl_take back (by rwa [htext]), htext]

/-- A line with two spaces at its end, and one more line, in an item. -/
def brokenLines : Bytes :=
  Utf8.ofString "- a  \nb\n"

/-- Line breaks before a text, behind it and behind one another, in an item that no event
closes. -/
def brokenLineEvents : List PlacedEvent :=
  [⟨.opened .item, ⟨0, 8⟩⟩, ⟨.softBreak, ⟨1, 2⟩⟩, ⟨.text "a", ⟨2, 3⟩⟩, ⟨.hardBreak, ⟨3, 6⟩⟩,
    ⟨.softBreak, ⟨5, 6⟩⟩, ⟨.text "b", ⟨6, 7⟩⟩]

/-- The text before the hard break stays as it was when it got its mark. -/
theorem exists_ofEvents_lineBreaks_brokenLines :
    (∀ placed ∈ brokenLineEvents, placed.range.isWithin brokenLines) ∧
    ∃ doc, ofEvents? brokenLines brokenLineEvents = some doc ∧
      (doc.brokenTexts LineBreaks.soft).card = 2 ∧ (doc.brokenTexts LineBreaks.hard).card = 1 ∧
      (doc.node 4).element = .text (.source ⟨2, 3⟩) { hard := true } := by
  have hevents : ∀ placed ∈ brokenLineEvents, placed.range.isWithin brokenLines := by
    decide +kernel
  have hmarked : ((Assembly.ofEvents brokenLines (brokenLineEvents.take 4)).document.node
      4).element = .text (.source ⟨2, 3⟩) { hard := true } := by decide +kernel
  obtain ⟨doc, hdoc, hsoft, hhard, -, hstays⟩ := exists_ofEvents_lineBreaks hevents
  refine ⟨hevents, doc, hdoc, hsoft, hhard, ?_⟩
  have hsplit : brokenLineEvents = brokenLineEvents.take 4 ++ brokenLineEvents.drop 4 :=
    (List.take_append_drop 4 _).symm
  exact hstays _ _ hsplit 4 _ _ hmarked (by decide)

end Document

end MarkdownFormat
