/-
# Documents of well-nested events

What an assembly makes of the events of a passage is the part that the passage is. The
induction is on passages: inside of a construct the assembly starts with empty contents,
to which the passages add their parts, and closing the construct adds it as a part to the
contents around it.
-/

import MarkdownFormat.Proofs.Event.Constructs
import MarkdownFormat.Proofs.Event.WellNested

namespace MarkdownFormat

namespace Tag

/-- What a code block admits is a text. -/
theorem eq_text_of_admits {tag : Tag} (htag : tag.isCode) {passage : Passage}
    (hadmits : tag.admits passage.first) : ∃ content range, passage = .event ⟨.text content, range⟩ := by
  cases tag with
  | indentedCode | fencedCode info =>
      rcases passage with ⟨event, range⟩ | ⟨inner, opening, closing, inside⟩
      · cases event with
        | text content => exact ⟨content, range, rfl⟩
        | _ => cases hadmits
      · cases hadmits
  | _ => cases htag

/-- What an HTML block admits is a line of it. -/
theorem eq_html_of_admits {passage : Passage} (hadmits : htmlBlock.admits passage.first) :
    ∃ content range, passage = .event ⟨.html content, range⟩ := by
  rcases passage with ⟨event, range⟩ | ⟨inner, opening, closing, inside⟩
  · cases event with
    | html content => exact ⟨content, range, rfl⟩
    | _ => cases hadmits
  · cases hadmits

end Tag

namespace Assembly

variable {source : Bytes} {a b : Assembly} {label : Label} {outer : List Shelf}
  {contents : Contents} {tag : Tag}

/-- If no text grows, nothing is to be ended. -/
theorem settle_eq_self (hgrowing : a.growingText = none) : a.settle = a := by
  cases a
  cases hgrowing
  rfl

/-- While content is collected, the construct stays open. -/
theorem Stands.closeTextBlock_of_collected {opening : Segment}
    (hstands : a.Stands (⟨{ element := tag.element source opening }, []⟩ :: outer))
    (hdocument : b.document = a.document) (hopenNodes : b.openNodes = a.openNodes) :
    b.closeTextBlock.Stands (⟨{ element := tag.element source opening }, []⟩ :: outer) := by
  have hopen := hstands.congr hdocument hopenNodes
  rw [Assembly.closeTextBlock, if_neg]
  · exact hopen
  · rw [hopen.topElement_eq]
    exact Tag.element_ne_textBlock _ _

/-- In a code block, the characters of all texts are collected. -/
theorem foldl_take_code (source : Bytes) (htag : tag.isCode) {inside : List Passage}
    (hinside : inside.all (tag.admits ·.first)) {code : List Char}
    (hmemory : a.memory = (none, some code, [], false)) :
    ((Passage.eventsOfRow inside).foldl (take source) a).document = a.document ∧
      ((Passage.eventsOfRow inside).foldl (take source) a).openNodes = a.openNodes ∧
      ((Passage.eventsOfRow inside).foldl (take source) a).memory =
        (none, some (code ++ inside.flatMap Passage.characters), [], false) := by
  induction inside generalizing a code with
  | nil => exact ⟨rfl, rfl, by simpa [Passage.eventsOfRow] using hmemory⟩
  | cons passage rest ih =>
      rw [List.all_cons, Bool.and_eq_true] at hinside
      obtain ⟨hpassage, hrest⟩ := hinside
      obtain ⟨content, range, rfl⟩ := Tag.eq_text_of_admits htag hpassage
      rw [Passage.eventsOfRow_event, List.foldl_cons, List.flatMap_cons, ← List.append_assoc]
      show _ ∧ _ ∧ (List.foldl (take source) (a.text source range content) _).memory = _
      have htaken : (a.text source range content).document = a.document ∧
          (a.text source range content).openNodes = a.openNodes ∧
          (a.text source range content).memory =
            (none, some (code ++ content.toList), [], false) := by
        rw [memory_eq_iff] at hmemory
        simp only [text, hmemory.2.1, document_touch, openNodes_touch, memory_touch, true_and]
        simp [memory, hmemory]
      obtain ⟨hdocument, hopenNodes, hcollected⟩ := ih hrest htaken.2.2
      exact ⟨hdocument.trans htaken.1, hopenNodes.trans htaken.2.1, hcollected⟩

/-- In an HTML block, the ranges of all lines are collected. -/
theorem foldl_take_html (source : Bytes) {inside : List Passage}
    (hinside : inside.all (Tag.admits .htmlBlock ·.first))
    {lines : List Value} (htop : a.topElement.kind = .htmlBlock)
    (hmemory : a.memory = (none, none, lines, false)) :
    ((Passage.eventsOfRow inside).foldl (take source) a).document = a.document ∧
      ((Passage.eventsOfRow inside).foldl (take source) a).openNodes = a.openNodes ∧
      ((Passage.eventsOfRow inside).foldl (take source) a).memory =
        (none, none, lines ++ (inside.flatMap Passage.ranges).map .source, false) := by
  induction inside generalizing a lines with
  | nil => exact ⟨rfl, rfl, by simpa [Passage.eventsOfRow] using hmemory⟩
  | cons passage rest ih =>
      rw [List.all_cons, Bool.and_eq_true] at hinside
      obtain ⟨hpassage, hrest⟩ := hinside
      obtain ⟨content, range, rfl⟩ := Tag.eq_html_of_admits hpassage
      rw [Passage.eventsOfRow_event, List.foldl_cons, List.flatMap_cons, List.map_append,
        ← List.append_assoc]
      have htaken : (a.take source ⟨.html content, range⟩).document = a.document ∧
          (a.take source ⟨.html content, range⟩).openNodes = a.openNodes ∧
          (a.take source ⟨.html content, range⟩).memory =
            (none, none, lines ++ [.source range], false) := by
        rw [memory_eq_iff] at hmemory
        have htake : a.take source ⟨.html content, range⟩ = a.htmlLine source range content :=
          congrArg (htmlLine · source range content) (settle_eq_self hmemory.1)
        rw [htake, htmlLine, if_pos htop]
        simp [memory, touch, hmemory]
      have htaken_top : (a.take source ⟨.html content, range⟩).topElement.kind = .htmlBlock := by
        rw [topElement, top_eq_of_openNodes htaken.2.1, htaken.1]
        exact htop
      obtain ⟨hdocument, hopenNodes, hcollected⟩ := ih hrest htaken_top htaken.2.2
      exact ⟨hdocument.trans htaken.1, hopenNodes.trans htaken.2.1, hcollected⟩

namespace IsAt

variable (hat : a.IsAt source label outer contents) {opening closing : Segment}
  {inside : List Passage}

include hat

/-- A construct is taken in as a part if what is inside of it is. -/
theorem take_construct {children : List Tree} {code : Option (List Char)} {html : List Value}
    (hinside : ∀ opened : Assembly,
      opened.Stands (⟨{ element := tag.element source opening }, []⟩ ::
        contents.settle.shelvesFor source label outer tag) →
      opened.memory = (none, if tag.isCode then some [] else none, [], false) →
      ∃ ended : Assembly,
        ((Passage.eventsOfRow inside).foldl (take source) opened).settle = ended ∧
        ended.closeTextBlock.Stands (⟨{ element := tag.element source opening }, children⟩ ::
          contents.settle.shelvesFor source label outer tag) ∧
        ended.memory = (none, code, html, false))
    (hcode : tag.isCode = false → code = none) (hhtml : tag ≠ .htmlBlock → html = [])
    (hclosing : closing.isWithin source) :
    ((Passage.construct tag opening closing inside).events.foldl (take source) a).IsAt source
      label outer (contents.place source label.element
        (tag.part (.node
          { element := tag.element source opening
            lines := tag.endTag.lines source closing code html } children))) := by
  have hsettled := hat.settle
  obtain ⟨ended, hended, hstands, hmemory⟩ := hinside _ (hsettled.opened tag opening)
    (memory_opened hat.memory_settle tag opening)
  have hclosed := hsettled.closed hstands hmemory hcode hhtml hclosing
  rw [Passage.events, List.foldl_cons, List.foldl_append, List.foldl_cons, List.foldl_nil]
  show (((Passage.eventsOfRow inside).foldl (take source)
    (a.settle.opened source opening tag)).settle.closed source closing tag.endTag).IsAt _ _ _ _
  rw [hended]
  apply hclosed.of_settle
  rw [Tag.part]
  split <;> rfl

/-- The children of an ordinary construct come from the passages inside of it. -/
theorem take_ordinary (hverbatim : tag.isVerbatim = false) (hclosing : closing.isWithin source)
    (hinside : ∀ {b : Assembly} {label : Label} {outer : List Shelf},
      b.IsAt source label outer {} →
        ((Passage.eventsOfRow inside).foldl (take source) b).IsAt source label outer
          ((Passage.partsOf source inside).foldl (Contents.place source label.element) {})) :
    ((Passage.construct tag opening closing inside).events.foldl (take source) a).IsAt source
      label outer (contents.place source label.element
        ((Passage.construct tag opening closing inside).part source)) := by
  have hcode : tag.isCode = false := by
    cases tag <;> first | rfl | cases hverbatim
  have hlines : Passage.linesOf source tag closing inside =
      tag.endTag.lines source closing none [] := by
    cases tag <;> first | rfl | cases hverbatim
  rw [Passage.part, hverbatim, if_neg (by simp), hlines]
  apply hat.take_construct _ (fun _ => rfl) (fun _ => rfl) hclosing
  intro opened hstands hmemory
  rw [hcode] at hmemory
  have hended := hinside (of_opened hstands hmemory (Tag.element_ne_textBlock _ _)
    (Tag.kind_element_ne_htmlBlock _ _ hverbatim))
  refine ⟨_, rfl, ?_, hended.memory_settle⟩
  have hclose := hended.settle.closeTextBlock
  have hall : Contents.all source (tag.element source opening)
      ((Passage.partsOf source inside).foldl
        (Contents.place source (tag.element source opening)) {}).settle =
      childrenOf source (tag.element source opening) (Passage.partsOf source inside) := by
    rw [← Contents.all_foldl_place, Contents.all, Contents.all, Contents.settle, OpenRow.all_settle]
  rw [Contents.blockShelves, hall] at hclose
  exact hclose

/-- The content of a code block becomes its lines. -/
theorem take_code (htag : tag.isCode) (hadmits : inside.all (tag.admits ·.first))
    (hclosing : closing.isWithin source) :
    ((Passage.construct tag opening closing inside).events.foldl (take source) a).IsAt source
      label outer (contents.place source label.element
        ((Passage.construct tag opening closing inside).part source)) := by
  have hverbatim : tag.isVerbatim := by
    cases tag <;> first | rfl | cases htag
  have hlines : Passage.linesOf source tag closing inside = tag.endTag.lines source closing
      (some (inside.flatMap Passage.characters)) [] := by
    cases tag <;> first | rfl | cases htag
  rw [Passage.part, if_pos hverbatim, hlines]
  apply hat.take_construct _ (fun hnone => absurd htag (by simp [hnone])) (fun _ => rfl) hclosing
  intro opened hstands hmemory
  rw [if_pos htag] at hmemory
  have hcollected := foldl_take_code source htag hadmits hmemory
  exact ⟨_, settle_eq_self (congrArg (·.1) hcollected.2.2),
    hstands.closeTextBlock_of_collected hcollected.1 hcollected.2.1, hcollected.2.2⟩

/-- The ranges in an HTML block become its lines. -/
theorem take_html (hadmits : inside.all (Tag.admits .htmlBlock ·.first))
    (hclosing : closing.isWithin source) :
    ((Passage.construct .htmlBlock opening closing inside).events.foldl (take source) a).IsAt source
      label outer (contents.place source label.element
        ((Passage.construct .htmlBlock opening closing inside).part source)) := by
  apply hat.take_construct _ (fun _ => rfl) (fun hne => absurd rfl hne) hclosing
  intro opened hstands hmemory
  have htop : opened.topElement.kind = .htmlBlock := by
    rw [hstands.topElement_eq]
    rfl
  have hcollected := foldl_take_html source hadmits htop hmemory
  exact ⟨_, settle_eq_self (congrArg (·.1) hcollected.2.2),
    hstands.closeTextBlock_of_collected hcollected.1 hcollected.2.1, hcollected.2.2⟩

omit hat in
/-- Passages are taken in as the parts that they are. -/
theorem take_rows :
    (∀ (passage : Passage) {a : Assembly} {label : Label} {outer : List Shelf}
      {contents : Contents}, passage.isSound source → a.IsAt source label outer contents →
        (passage.events.foldl (take source) a).IsAt source label outer
          (contents.place source label.element (passage.part source))) ∧
    ∀ (passages : List Passage) {a : Assembly} {label : Label} {outer : List Shelf}
      {contents : Contents}, Passage.areSound source passages →
        a.IsAt source label outer contents →
          ((Passage.eventsOfRow passages).foldl (take source) a).IsAt source label outer
            ((Passage.partsOf source passages).foldl (Contents.place source label.element)
              contents) := by
  apply Passage.rows_induction
  · intro placed a label outer contents hsound hat
    rw [Passage.isSound, Bool.and_eq_true] at hsound
    exact hat.take_single hsound.1 hsound.2
  · intro tag opening closing inside ih a label outer contents hsound hat
    simp only [Passage.isSound, Bool.and_eq_true] at hsound
    obtain ⟨⟨⟨-, hclosing⟩, hadmits⟩, hinside⟩ := hsound
    by_cases hverbatim : tag.isVerbatim
    · by_cases hcode : tag.isCode
      · exact hat.take_code hcode hadmits hclosing
      · have hhtml : tag = .htmlBlock := by
          cases tag with
          | htmlBlock => rfl
          | indentedCode | fencedCode info => exact absurd rfl hcode
          | _ => cases hverbatim
        subst hhtml
        exact hat.take_html hadmits hclosing
    · exact hat.take_ordinary (Bool.eq_false_iff.mpr hverbatim) hclosing (ih hinside)
  · intro a label outer contents _ hat
    exact hat
  · intro passage rest ihPassage ihRest a label outer contents hsound hat
    rw [Passage.areSound, Bool.and_eq_true] at hsound
    rw [Passage.eventsOfRow, List.foldl_append]
    exact ihRest hsound.2 (ihPassage hsound.1 hat)

omit hat in
/-- An assembly starts inside the root. -/
theorem start (source : Bytes) : IsAt source {} { element := .document } [] {} := by
  apply of_opened
  · exact ⟨⟨rfl, rfl⟩, ⟨⟨rfl, rfl⟩, rfl, rfl, trivial⟩, rfl⟩
  · rfl
  · nofun
  · nofun

end IsAt

end Assembly

namespace Document

/-- The events of sound passages describe the document that recursion over the passages
gives. -/
theorem ofEvents?_eventsOfRow {source : Bytes} {passages : List Passage}
    (hsound : Passage.areSound source passages) :
    ∃ (doc : Document) (tree : Tree),
      ofEvents? source (Passage.eventsOfRow passages) = some doc ∧
        doc.Holds tree root ∧ tree.bare = (Passage.documentTree source passages).bare ∧
        doc.size = (Passage.documentTree source passages).size := by
  have hat := Assembly.IsAt.take_rows.2 passages hsound (Assembly.IsAt.start source)
  have hastray : (Assembly.ofEvents source (Passage.eventsOfRow passages)).astray = false :=
    congrArg (·.2.2.2) hat.memory_eq
  have hall : ((Passage.partsOf source passages).foldl (Contents.place source .document) {}).all
      source .document = childRow source (Passage.partsOf source passages) :=
    Contents.all_foldl_place _
  have hbuilt : Built _ _ [] _ _ := hat.closeTextBlock
  rw [hall, Assembly.document_closeTextBlock] at hbuilt
  obtain ⟨tree, hholds, hbare⟩ := hbuilt.exists_holds
  refine ⟨_, tree, ?_, hholds, hbare, hbuilt.size_eq_tree⟩
  rw [ofEvents?]
  exact if_neg (by simp [hastray])

/-- Well-nested events, which are those of some passages, describe a document. It is the one
that recursion over the passages gives, up to blank lines and source ranges, and has no
other nodes. -/
theorem ofEvents?_of_isWellNested {source : Bytes} {events : List PlacedEvent}
    (hnested : isWellNested source events) :
    ∃ doc : Document, ofEvents? source events = some doc ∧
      (∃ passages, Passage.areSound source passages ∧ Passage.eventsOfRow passages = events) ∧
      ∀ passages, Passage.areSound source passages → Passage.eventsOfRow passages = events →
        ∃ tree : Tree, doc.Holds tree root ∧
          tree.bare = (Passage.documentTree source passages).bare ∧
          doc.size = (Passage.documentTree source passages).size := by
  obtain ⟨passages, hsound, hevents⟩ := isWellNested_iff.mp hnested
  obtain ⟨doc, -, hdoc, -⟩ := ofEvents?_eventsOfRow hsound
  rw [hevents] at hdoc
  refine ⟨doc, hdoc, ⟨passages, hsound, hevents⟩, ?_⟩
  intro other hother hsame
  obtain ⟨found, tree, hfound, hholds, hbare, hsize⟩ := ofEvents?_eventsOfRow hother
  rw [hsame, hdoc] at hfound
  cases hfound
  exact ⟨tree, hholds, hbare, hsize⟩

/-- A tight item with a code block between its texts. -/
def tightItemSource : Bytes :=
  Utf8.ofString "- a\n  b\n  ```\n  c\n  ```\n  d\n"

/-- What a reader reports of the item. -/
def tightItemPassages : List Passage :=
  [.construct (.list none) ⟨0, 28⟩ ⟨0, 28⟩ [.construct .item ⟨0, 28⟩ ⟨0, 28⟩ [
    .event ⟨.text "a", ⟨2, 3⟩⟩, .event ⟨.softBreak, ⟨3, 4⟩⟩, .event ⟨.text "b", ⟨6, 7⟩⟩,
    .construct (.fencedCode "") ⟨10, 23⟩ ⟨10, 23⟩ [.event ⟨.text "c\n", ⟨16, 18⟩⟩],
    .event ⟨.text "d", ⟨26, 27⟩⟩]]]

/-- The document of the item, with a text block on either side of the code. -/
def tightItemTree : Tree :=
  .node { element := .document } [
    .node { element := .list 0x2D false 1 } [.node { element := .listItem } [
      .node { element := .textBlock } [
        .node { element := .text (.source ⟨2, 3⟩) { soft := true } } [],
        .node { element := .plainText (.source ⟨6, 7⟩) } []],
      .node { element := .fencedCodeBlock none, lines := [.owned "c\n"] } [],
      .node { element := .textBlock } [.node { element := .plainText (.source ⟨26, 27⟩) } []]]]]

/-- An item with text, a code block and text again has two text blocks. -/
theorem ofEvents?_of_isWellNested_tightItem :
    isWellNested tightItemSource (Passage.eventsOfRow tightItemPassages) ∧
      ∃ (doc : Document) (tree : Tree),
        ofEvents? tightItemSource (Passage.eventsOfRow tightItemPassages) = some doc ∧
          doc.Holds tree root ∧ tree.bare = tightItemTree ∧ doc.size = 9 := by
  have hnested : isWellNested tightItemSource (Passage.eventsOfRow tightItemPassages) := by
    decide +kernel
  have hsound : Passage.areSound tightItemSource tightItemPassages := by decide +kernel
  have htree : Passage.documentTree tightItemSource tightItemPassages = tightItemTree := by cbv
  have hbare : tightItemTree.bare = tightItemTree := by rfl
  obtain ⟨doc, hdoc, -, hevery⟩ := ofEvents?_of_isWellNested hnested
  obtain ⟨tree, hholds, htreeBare, hsize⟩ := hevery tightItemPassages hsound rfl
  rw [htree] at htreeBare hsize
  exact ⟨hnested, doc, tree, hdoc, hholds, htreeBare.trans hbare, hsize⟩

end Document

end MarkdownFormat
