/-
# Opening and closing constructs

A construct opens a node in the text block of an item or beside it. When it is closed,
the node gets its lines and becomes a tree below the node that it was opened in.
-/

import MarkdownFormat.Proofs.Event.Steps

namespace MarkdownFormat

/-- The lines that closing a construct gives its node: those that were collected, or those
of a heading. -/
def EndTag.lines (source : Bytes) (range : Segment) (code : Option (List Char))
    (html : List Value) : EndTag → List Value
  | .codeBlock =>
      (cutAfter (· == '\n') (code.getD [])).map fun line => .owned (String.ofList line)
  | .heading => ((Spelling.headingLines? source range).getD []).map .source
  | .htmlBlock => html
  | .other => []

namespace Tag

variable {tag : Tag}

/-- No tag opens a text block. -/
theorem element_ne_textBlock (source : Bytes) (range : Segment) :
    tag.element source range ≠ .textBlock := by
  cases tag with
  | link form destination title => cases form <;> nofun
  | _ => nofun

/-- Only the tag of an HTML block opens one. -/
theorem kind_element_ne_htmlBlock (source : Bytes) (range : Segment)
    (htag : tag.isVerbatim = false) : (tag.element source range).kind ≠ .htmlBlock := by
  cases tag with
  | link form destination title => cases form <;> nofun
  | htmlBlock => cases htag
  | _ => nofun

/-- No construct is a text. -/
theorem isUnmarked_element (source : Bytes) (range : Segment) (lines : List Value)
    (children : List Tree) :
    (Tree.node { element := tag.element source range, lines } children).isUnmarked = false := by
  cases tag with
  | link form destination title => cases form <;> rfl
  | _ => rfl

end Tag

/-- The shelves that a construct is opened in. -/
def Contents.shelvesFor (source : Bytes) (label : Label) (outer : List Shelf)
    (contents : Contents) (tag : Tag) : List Shelf :=
  if tag.isInline then contents.inlineShelves source label outer
  else contents.blockShelves source label outer

namespace Assembly

variable {source : Bytes} {a b : Assembly} {label : Label} {outer : List Shelf}
  {contents : Contents} {tag : Tag} {range : Segment}

/-- A tag opens an inline node, a code block or another block. -/
theorem opened_eq (tag : Tag) :
    a.opened source range tag =
      if tag.isInline then a.openInline source (tag.element source range) range
      else if tag.isCode then a.openCode source (tag.element source range) range
      else a.openBlock source (tag.element source range) range := by
  cases tag with
  | link form destination title => cases form <;> rfl
  | _ => rfl

/-- The document and the open nodes are all that counts. -/
theorem Stands.closeTextBlock_congr {shelves : List Shelf}
    (hstands : a.closeTextBlock.Stands shelves) (hdocument : b.document = a.document)
    (hopenNodes : b.openNodes = a.openNodes) : b.closeTextBlock.Stands shelves := by
  have htop : b.topElement = a.topElement := by
    rw [topElement, topElement, hdocument, top_eq_of_openNodes hopenNodes]
  unfold closeTextBlock at hstands ⊢
  rw [htop]
  by_cases htextBlock : a.topElement = .textBlock
  · rw [if_pos htextBlock] at hstands ⊢
    exact hstands.congr hdocument (congrArg List.tail hopenNodes)
  · rw [if_neg htextBlock] at hstands ⊢
    exact hstands.congr hdocument hopenNodes

/-- A block is opened beside the text block that was open. -/
theorem Stands.openBlock {trees : List Tree}
    (hstands : a.closeTextBlock.Stands (⟨label, trees⟩ :: outer)) (element : Element)
    (range : Segment) :
    (a.openBlock source element range).Stands (⟨{ element }, []⟩ :: ⟨label, trees⟩ :: outer) :=
  hstands.open _ _ _

namespace IsAt

variable (hat : a.IsAt source label outer contents)
  (hmemory : a.memory = (none, none, [], false))

include hat

/-- A construct is opened where it belongs. -/
theorem opened (tag : Tag) (range : Segment) :
    (a.opened source range tag).Stands
      (⟨{ element := tag.element source range }, []⟩ ::
        contents.shelvesFor source label outer tag) := by
  rw [opened_eq, Contents.shelvesFor]
  by_cases hinline : tag.isInline
  · rw [if_pos hinline, if_pos hinline]
    exact hat.openInline _ _
  · rw [if_neg hinline, if_neg hinline]
    by_cases hcode : tag.isCode
    · rw [if_pos hcode, openCode]
      apply Stands.openBlock
      exact hat.closeTextBlock.closeTextBlock_congr rfl rfl
    · rw [if_neg hcode]
      exact hat.openBlock _ _

include hmemory

omit hat in
/-- Opening a code block starts to collect its content. -/
theorem memory_opened (tag : Tag) (range : Segment) :
    (a.opened source range tag).memory =
      (none, if tag.isCode then some [] else none, [], false) := by
  rw [memory_eq_iff] at hmemory
  rw [opened_eq]
  by_cases hinline : tag.isInline
  · have hcode : tag.isCode = false := by
      cases tag <;> first | rfl | cases hinline
    rw [if_pos hinline, memory_openInline, hcode]
    simp [memory, hmemory]
  · rw [if_neg hinline]
    by_cases hcode : tag.isCode
    · rw [if_pos hcode, if_pos hcode, openCode, memory_openBlock]
      simp [memory, hmemory]
    · rw [if_neg hcode, if_neg hcode, memory_openBlock]
      simp [memory, hmemory]

end IsAt

/-- Closing a construct gives its node its lines. -/
theorem Stands.finish {element : Element} {children : List Tree}
    (hstands : a.Stands (⟨{ element }, children⟩ :: outer)) (source : Bytes) (range : Segment)
    (tag : EndTag) :
    (a.finish source range tag).Stands
      (⟨{ element, lines := tag.lines source range a.code a.html }, children⟩ :: outer) := by
  cases tag with
  | codeBlock =>
      have hlines := (hstands.setLines (EndTag.lines source range a.code a.html .codeBlock))
      rw [Assembly.finish]
      split
      · apply Stands.touch
        exact hlines.congr rfl rfl
      · exact hlines.congr rfl rfl
  | heading =>
      rw [Assembly.finish, EndTag.lines]
      cases Spelling.headingLines? source range with
      | none => exact hstands.congr rfl rfl
      | some lines => exact (hstands.setLines _).touch _
  | htmlBlock => exact (hstands.setLines a.html).congr rfl rfl
  | other => exact hstands

/-- The end of a construct takes away what it gathered, and nothing else. -/
theorem memory_finish {code : Option (List Char)} {html : List Value}
    (hmemory : a.memory = (none, code, html, false)) (hrange : range.isWithin source)
    (tag : EndTag) :
    (a.finish source range tag).memory =
      (none, if tag = .codeBlock then none else code, if tag = .htmlBlock then [] else html,
        false) := by
  cases tag with
  | codeBlock =>
      rw [memory_eq_iff] at hmemory
      rw [Assembly.finish]
      split
      · rw [memory_touch]
        simp [memory, setLines, hmemory]
      · simp [memory, setLines, hmemory]
  | heading =>
      simp only [Segment.isWithin, Bool.and_eq_true, decide_eq_true_eq] at hrange
      rw [Assembly.finish]
      simp only [Spelling.headingLines?, Spelling.slice?, if_pos hrange, Option.map_some,
        memory_touch, memory_setLines, hmemory]
      simp
  | htmlBlock =>
      rw [memory_eq_iff] at hmemory
      simp [finish, memory, setLines, hmemory]
  | other => simp [finish, hmemory]

namespace IsAt

/-- A construct that is closed is taken in as a part. -/
theorem closed (hat : a.IsAt source label outer contents) {opening closing : Segment}
    {children : List Tree} {code : Option (List Char)} {html : List Value}
    (hstands : b.closeTextBlock.Stands (⟨{ element := tag.element source opening }, children⟩ ::
      contents.shelvesFor source label outer tag))
    (hmemory : b.memory = (none, code, html, false)) (hcode : tag.isCode = false → code = none)
    (hhtml : tag ≠ .htmlBlock → html = []) (hclosing : closing.isWithin source) :
    (b.closed source closing tag.endTag).IsAt source label outer
      (contents.place source label.element
        (tag.part (.node
          { element := tag.element source opening
            lines := tag.endTag.lines source closing code html } children))) := by
  have hclosed := memory_finish (memory_closeTextBlock.trans hmemory) hclosing tag.endTag
  have hforgotten : (b.closed source closing tag.endTag).memory = (none, none, [], false) := by
    rw [Assembly.closed, memory_pop, hclosed]
    cases tag with
    | indentedCode | fencedCode info => rw [hhtml nofun]; rfl
    | htmlBlock => rw [hcode rfl]; rfl
    | _ => rw [hcode rfl, hhtml nofun]; rfl
  have hfinish := hstands.finish source closing tag.endTag
  have hcollected := memory_closeTextBlock.trans hmemory
  rw [memory_eq_iff] at hcollected
  rw [hcollected.2.1, hcollected.2.2.1] at hfinish
  rw [Contents.shelvesFor] at hfinish
  rw [Tag.part]
  by_cases hinline : tag.isInline
  · rw [if_pos hinline] at hfinish ⊢
    exact hat.place_inline hfinish.pop hforgotten (Tag.isUnmarked_element _ _ _ _)
  · rw [if_neg hinline] at hfinish ⊢
    exact hat.place_block hfinish.pop hforgotten (Tag.isUnmarked_element _ _ _ _)

end IsAt

end Assembly

end MarkdownFormat
