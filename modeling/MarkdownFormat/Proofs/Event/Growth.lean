/-
# How an assembly grows

At any time an assembly is inside some construct, of which the contents so far are
known. It has this construct open and, for the run of an item, a text block inside of
it. Each part that arrives is added to these contents.
-/

import MarkdownFormat.Proofs.Event.Contents
import MarkdownFormat.Proofs.Event.OpenNodes

namespace MarkdownFormat

open Document (leaf)

/-- The label of the node that holds inline content: below an item, that of a text
block. -/
def Label.host (label : Label) : Label :=
  if label.element = .listItem then { element := .textBlock } else label

namespace Contents

variable (source : Bytes) (label : Label) (outer : List Shelf) (contents : Contents)

/-- The shelves around inline content. -/
def around : List Shelf :=
  if label.element = .listItem then ⟨label, contents.trees⟩ :: outer else outer

/-- The shelf of the inline content, and those around it. -/
def inlineShelves : List Shelf :=
  ⟨label.host, contents.run.all source⟩ :: contents.around label outer

/-- The shelf of the blocks, and those around it. -/
def blockShelves : List Shelf :=
  ⟨label, contents.all source label.element⟩ :: outer

/-- The shelves that are there. A text block without content is not. -/
def shelves : List Shelf :=
  if label.element = .listItem ∧ contents.run.all source = [] then
    ⟨label, contents.trees⟩ :: outer
  else contents.inlineShelves source label outer

end Contents

namespace Assembly

variable {source : Bytes} {a b : Assembly} {label : Label} {outer : List Shelf}
  {contents : Contents}

/-- The text that is growing, the content of the open code block, the lines of the open
HTML block and whether the assembly is astray. -/
def memory (a : Assembly) : Option NodeId × Option (List Char) × List Value × Bool :=
  (a.growingText, a.code, a.html, a.astray)

/-- What is remembered is four things. -/
theorem memory_eq_iff {growing : Option NodeId} {code : Option (List Char)}
    {html : List Value} {astray : Bool} :
    a.memory = (growing, code, html, astray) ↔
      a.growingText = growing ∧ a.code = code ∧ a.html = html ∧ a.astray = astray := by
  simp [memory]

@[simp]
theorem memory_add (parent : NodeId) (element : Element) (range : Segment)
    (blankBefore : Bool) : (a.add parent element range blankBefore).memory = a.memory := by
  rw [memory, add, memory]

@[simp]
theorem memory_touch (stop : Nat) : (a.touch stop).memory = a.memory := by
  rw [memory, touch, memory]

@[simp]
theorem memory_push (id : NodeId) : (a.push id).memory = a.memory := rfl

@[simp]
theorem memory_pop : a.pop.memory = a.memory := rfl

@[simp]
theorem memory_setLines (lines : List Value) : (a.setLines lines).memory = a.memory := by
  rw [memory, setLines, memory]

@[simp]
theorem memory_closeTextBlock : a.closeTextBlock.memory = a.memory := by
  rw [closeTextBlock]
  split <;> rfl

@[simp]
theorem memory_openBlock (element : Element) (range : Segment) :
    (a.openBlock source element range).memory = a.memory := by
  simp [openBlock]

@[simp]
theorem memory_openInlines (start : Nat) :
    (a.openInlines source start).memory = a.memory := by
  rw [openInlines]
  split
  · exact memory_openBlock _ _
  · rfl

@[simp]
theorem memory_addInline (element : Element) (range : Segment) :
    (a.addInline source element range).memory = a.memory := by
  simp [addInline]

@[simp]
theorem memory_openInline (element : Element) (range : Segment) :
    (a.openInline source element range).memory = a.memory := by
  simp [openInline]

/-- The same assembly, but no text goes on. -/
def settle (a : Assembly) : Assembly :=
  { a with growingText := none }

/-- The assembly is inside a construct with the given contents. -/
structure IsAt (source : Bytes) (a : Assembly) (label : Label) (outer : List Shelf)
    (contents : Contents) : Prop where
  stands : a.Stands (contents.shelves source label outer)
  memory_eq : a.memory =
    (if contents.run.isGrowing then (a.document.node a.top).lastChild else none, none, [], false)
  tidy : contents.Tidy label.element
  not_textBlock : label.element ≠ .textBlock
  not_htmlBlock : label.element.kind ≠ .htmlBlock

namespace IsAt

/-- Inline content goes to the text block of an item, which is opened if need be. -/
theorem openInlines (hat : a.IsAt source label outer contents) (start : Nat) :
    (a.openInlines source start).Stands (contents.inlineShelves source label outer) := by
  have hstands := hat.stands
  rw [Contents.shelves] at hstands
  by_cases hitem : label.element = .listItem
  · by_cases hempty : contents.run.all source = []
    · rw [if_pos ⟨hitem, hempty⟩] at hstands
      have htop := hstands.topElement_eq
      have hclose : a.closeTextBlock = a := by
        rw [closeTextBlock, if_neg]
        rw [htop, hitem]
        simp
      rw [Assembly.openInlines, if_pos (htop.trans hitem), openBlock, hclose,
        Contents.inlineShelves, Contents.around, if_pos hitem, Label.host, if_pos hitem, hempty]
      exact hstands.open _ _ _
    · rw [if_neg fun h => hempty h.2] at hstands
      have htop := hstands.topElement_eq
      rw [Label.host, if_pos hitem] at htop
      rw [Assembly.openInlines, if_neg]
      · exact hstands
      · rw [htop]
        simp
  · rw [if_neg fun h => hitem h.1] at hstands
    have htop := hstands.topElement_eq
    rw [Label.host, if_neg hitem] at htop
    rw [Assembly.openInlines, if_neg]
    · exact hstands
    · rw [htop]
      exact hitem

/-- Blocks go to the construct itself, once the text block of an item is closed. -/
theorem closeTextBlock (hat : a.IsAt source label outer contents) :
    a.closeTextBlock.Stands (contents.blockShelves source label outer) := by
  have hstands := hat.stands
  rw [Contents.shelves] at hstands
  rw [Contents.blockShelves, Contents.all]
  by_cases hitem : label.element = .listItem
  · rw [if_pos hitem]
    by_cases hempty : contents.run.all source = []
    · rw [if_pos ⟨hitem, hempty⟩] at hstands
      rw [Assembly.closeTextBlock, if_neg, hempty]
      · simpa [textBlocks] using hstands
      · rw [hstands.topElement_eq]
        exact hat.not_textBlock
    · rw [if_neg fun h => hempty h.2, Contents.inlineShelves, Contents.around, if_pos hitem,
        Label.host, if_pos hitem] at hstands
      rw [Assembly.closeTextBlock, if_pos hstands.topElement_eq,
        textBlocks_of_ne_nil hempty]
      exact hstands.pop
  · rw [if_neg fun h => hitem h.1, Contents.inlineShelves, Contents.around, if_neg hitem,
      Label.host, if_neg hitem] at hstands
    rw [if_neg hitem, hat.tidy.trees_eq hitem, Assembly.closeTextBlock, if_neg]
    · exact hstands
    · rw [hstands.topElement_eq]
      exact hat.not_textBlock

/-- Inline content that is added to the open node that holds it. -/
theorem of_inlineShelves (hat : a.IsAt source label outer contents) {run : OpenRow}
    (hstands : b.Stands (⟨label.host, run.all source⟩ :: contents.around label outer))
    (hfull : run.all source ≠ [])
    (hmemory : b.memory =
      (if run.isGrowing then (b.document.node b.top).lastChild else none, none, [], false))
    (htidy : run.Tidy) : b.IsAt source label outer { contents with run } where
  stands := by
    rw [Contents.shelves, if_neg fun h => hfull h.2]
    exact hstands
  memory_eq := hmemory
  tidy := ⟨hat.tidy.trees_eq, htidy⟩
  not_textBlock := hat.not_textBlock
  not_htmlBlock := hat.not_htmlBlock

/-- An inline tree that is added as such. -/
theorem place_inline (hat : a.IsAt source label outer contents) {tree : Tree}
    (hstands : b.Stands
      (⟨label.host, contents.run.all source ++ [tree]⟩ :: contents.around label outer))
    (hmemory : b.memory = (none, none, [], false)) (hmarked : tree.isUnmarked = false) :
    b.IsAt source label outer (contents.place source label.element (.inline tree)) := by
  have hplace : contents.place source label.element (.inline tree) =
      { contents with run := contents.run.place source (.inline tree) } := by
    simp [Contents.place, Part.isNoText]
  have hall : (contents.run.place source (.inline tree)).all source =
      contents.run.all source ++ [tree] := by
    simp [OpenRow.place, OpenRow.all]
  rw [hplace]
  apply hat.of_inlineShelves
  · rw [hall]
    exact hstands
  · simp [hall]
  · exact hmemory
  · exact hat.tidy.run.place (by simp [Part.isMarked, hmarked])

/-- A block that is added as such. -/
theorem place_block (hat : a.IsAt source label outer contents) {tree : Tree}
    (hstands : b.Stands
      (⟨label, contents.all source label.element ++ [tree]⟩ :: outer))
    (hmemory : b.memory = (none, none, [], false)) (hmarked : tree.isUnmarked = false) :
    b.IsAt source label outer (contents.place source label.element (.block tree)) where
  stands := by
    by_cases hitem : label.element = .listItem
    · simpa [Contents.shelves, Contents.place, Contents.all, hitem, OpenRow.all] using hstands
    · simpa [Contents.shelves, Contents.inlineShelves, Contents.around, Label.host,
        Contents.place, Contents.all, hitem, OpenRow.all, OpenRow.place, Part.isNoText,
        hat.tidy.trees_eq hitem] using hstands
  memory_eq := by
    rw [hmemory]
    by_cases hitem : label.element = .listItem
    · simp [Contents.place, hitem, OpenRow.isGrowing]
    · simp [Contents.place, hitem, OpenRow.isGrowing, OpenRow.place, Part.isNoText]
  tidy := hat.tidy.place (by simp [Part.isMarked, hmarked])
  not_textBlock := hat.not_textBlock
  not_htmlBlock := hat.not_htmlBlock

/-- Inside a construct that has just been opened there is nothing yet. -/
theorem of_opened (hstands : b.Stands (⟨label, []⟩ :: outer))
    (hmemory : b.memory = (none, none, [], false)) (htextBlock : label.element ≠ .textBlock)
    (hhtmlBlock : label.element.kind ≠ .htmlBlock) : b.IsAt source label outer {} where
  stands := by
    by_cases hitem : label.element = .listItem
    · simpa [Contents.shelves, hitem, OpenRow.all] using hstands
    · simpa [Contents.shelves, Contents.inlineShelves, Contents.around, Label.host, hitem,
        OpenRow.all] using hstands
  memory_eq := hmemory
  tidy := ⟨fun _ => rfl, fun _ _ htree => nomatch htree⟩
  not_textBlock := htextBlock
  not_htmlBlock := hhtmlBlock

end IsAt

end Assembly

end MarkdownFormat
