/-
# Passages

Well-nested events are a row of passages: an event without content, or a construct with
the passages between the events that open and close it. What a document is made of can
then be said by recursion over passages. Each of them is a part of the construct around
it; a construct takes its children from the parts inside, in the following way.

* Texts that follow one another make one text.
* A line break marks the text before it, if that is the last child and has no mark yet.
  Otherwise an empty text with the mark is added.
* Inside an item, the parts between two blocks go into one text block.
* An autolink has no texts, since it shows its address.
* Code blocks and HTML blocks have lines in place of children.
-/

import MarkdownFormat.Event.Assembly
import MarkdownFormat.Proofs.Document.Tree

namespace MarkdownFormat

/-- An event, or a construct with what is inside of it. -/
inductive Passage
  | event (placed : PlacedEvent)
  | construct (tag : Tag) (opening closing : Segment) (inside : List Passage)

/-- What is shown of each passage and of each row of passages follows from showing it of
an event, of a construct with the row inside of it, of the empty row and of a row that
starts with a passage. -/
theorem Passage.rows_induction {ofPassage : Passage → Prop} {ofRow : List Passage → Prop}
    (event : ∀ placed, ofPassage (.event placed))
    (construct : ∀ tag opening closing inside, ofRow inside →
      ofPassage (.construct tag opening closing inside))
    (nil : ofRow [])
    (cons : ∀ passage rest, ofPassage passage → ofRow rest → ofRow (passage :: rest)) :
    (∀ passage, ofPassage passage) ∧ ∀ passages, ofRow passages :=
  ⟨fun passage => @Passage.rec ofPassage ofRow event construct nil cons passage,
    fun passages => @Passage.rec_1 ofPassage ofRow event construct nil cons passages⟩

namespace Tag

/-- Whether a construct stands in a line. -/
def isInline : Tag → Bool
  | .emphasis | .strong | .strikethrough | .link _ _ _ | .image _ _ => true
  | _ => false

/-- Whether a construct holds code. -/
def isCode : Tag → Bool
  | .indentedCode | .fencedCode _ => true
  | _ => false

/-- Whether the content of a construct becomes lines. -/
def isVerbatim : Tag → Bool
  | .indentedCode | .fencedCode _ | .htmlBlock => true
  | _ => false

/-- Whether an event may stand right inside a construct: code blocks hold texts only, and
HTML blocks hold lines of HTML only. -/
def admits : Tag → Event → Bool
  | .indentedCode, .text _ | .fencedCode _, .text _ | .htmlBlock, .html _ => true
  | tag, _ => !tag.isVerbatim

/-- The element of a construct. -/
def element (source : Bytes) (range : Segment) : Tag → Element
  | .paragraph => .paragraph
  | .heading level => .heading level
  | .blockQuote => .blockquote
  | .indentedCode => .codeBlock
  | .fencedCode info => .fencedCodeBlock (if info = "" then none else some (.owned info))
  | .htmlBlock => .htmlBlock none
  | .list start =>
      .list (Spelling.listMarker source range.start start.isSome) start.isSome (start.getD 1)
  | .item => .listItem
  | .emphasis => .emphasis 1
  | .strong => .emphasis 2
  | .strikethrough => .custom "Strikethrough" false
  | .link .autolink _ _ | .link .email _ _ =>
      .autoLink (.source ⟨range.start + 1, range.stop - 1⟩)
  | .link .inline destination title | .link .reference destination title =>
      .link destination title
  | .image destination title => .image destination title
  | .other => .custom "Unsupported" true

end Tag

/-- Whether a range lies within the source. -/
def Segment.isWithin (source : Bytes) (range : Segment) : Bool :=
  range.start ≤ range.stop && range.stop ≤ source.length

/-- Whether an event neither opens nor closes a construct. -/
def Event.isSingle : Event → Bool
  | .opened _ | .closed _ => false
  | _ => true

namespace Passage

mutual
/-- The events of a passage. -/
def events : Passage → List PlacedEvent
  | .event placed => [placed]
  | .construct tag opening closing inside =>
      ⟨.opened tag, opening⟩ :: (eventsOfRow inside ++ [⟨.closed tag.endTag, closing⟩])

/-- The events of a row of passages. -/
def eventsOfRow : List Passage → List PlacedEvent
  | [] => []
  | passage :: rest => passage.events ++ eventsOfRow rest
end

/-- The event that a passage starts with. -/
def first : Passage → Event
  | .event placed => placed.event
  | .construct tag _ _ _ => .opened tag

theorem eventsOfRow_event (placed : PlacedEvent) (rest : List Passage) :
    eventsOfRow (.event placed :: rest) = placed :: eventsOfRow rest := rfl

mutual
/-- Whether all ranges lie within the source and all constructs hold what they may. -/
def isSound (source : Bytes) : Passage → Bool
  | .event placed => placed.range.isWithin source && placed.event.isSingle
  | .construct tag opening closing inside =>
      opening.isWithin source && closing.isWithin source &&
        inside.all (tag.admits ·.first) && areSound source inside

/-- Whether all passages of a row are sound. -/
def areSound (source : Bytes) : List Passage → Bool
  | [] => true
  | passage :: rest => passage.isSound source && areSound source rest
end

end Passage

/-- What a passage is to the construct around it. -/
inductive Part
  | text (range : Segment)
  | lineBreak (breaks : LineBreaks)
  | inline (tree : Tree)
  | block (tree : Tree)
  /-- Nothing, but no text goes on across it. -/
  | nothing

namespace Part

/-- Whether a part shows in a document. -/
def contributes : Part → Bool
  | .nothing => false
  | _ => true

/-- Whether a part is not a text. -/
def isNoText : Part → Bool
  | .text _ => false
  | _ => true

end Part

/-- A text from the source. An escape belongs to it with its backslash. -/
def textTree (source : Bytes) (range : Segment) (breaks : LineBreaks) : Tree :=
  let start := (Spelling.textStart? source range.start).getD range.start
  .node { element := .text (.source ⟨start, range.stop⟩) breaks } []

/-- An empty text with the mark of a line break. -/
def breakTree (breaks : LineBreaks) : Tree :=
  .node { element := .text .empty breaks } []

/-- A text block, unless it would be empty. -/
def textBlocks (trees : List Tree) : List Tree :=
  if trees.isEmpty then [] else [.node { element := .textBlock } trees]

/-- Makes one text of texts that follow one another: from the start of the first to the
end of the last. -/
def joinTexts : List Part → List Part
  | [] => []
  | .text range :: rest =>
    match joinTexts rest with
    | .text last :: others => .text ⟨range.start, last.stop⟩ :: others
    | others => .text range :: others
  | part :: rest => part :: joinTexts rest

/-- Puts the marks of line breaks on the texts before them. -/
def withBreaks (source : Bytes) : List Part → List Tree
  | [] => []
  | .text range :: .lineBreak breaks :: rest =>
      textTree source range breaks :: withBreaks source rest
  | .text range :: rest => textTree source range {} :: withBreaks source rest
  | .lineBreak breaks :: rest => breakTree breaks :: withBreaks source rest
  | .inline tree :: rest | .block tree :: rest => tree :: withBreaks source rest
  | .nothing :: rest => withBreaks source rest

/-- The children that some parts make below one node. -/
def childRow (source : Bytes) (parts : List Part) : List Tree :=
  withBreaks source ((joinTexts parts).filter Part.contributes)

/-- The parts before the first block, and the trees that the rest makes below an item. -/
def splitRuns (source : Bytes) : List Part → List Part × List Tree
  | [] => ([], [])
  | .block tree :: rest =>
      let (run, trees) := splitRuns source rest
      ([], tree :: (textBlocks (childRow source run) ++ trees))
  | part :: rest =>
      let (run, trees) := splitRuns source rest
      (part :: run, trees)

/-- The children that some parts make below an item. -/
def itemChildren (source : Bytes) (parts : List Part) : List Tree :=
  let (run, trees) := splitRuns source parts
  textBlocks (childRow source run) ++ trees

/-- The children that some parts make below an element. -/
def childrenOf (source : Bytes) (element : Element) (parts : List Part) : List Tree :=
  if element = .listItem then itemChildren source parts
  else if element.kind = .autoLink then childRow source (parts.filter Part.isNoText)
  else childRow source parts

/-- The part that an event is. -/
def PlacedEvent.part (source : Bytes) (placed : PlacedEvent) : Part :=
  match placed.event with
  | .text _ => .text placed.range
  | .code content =>
      .inline (.node { element := .codeSpan } [.node { element := .plainText (.owned content) } []])
  | .html content | .inlineHtml content =>
      let value := if Spelling.slice? source placed.range = some (Utf8.ofString content) then
          Value.source placed.range
        else Value.owned content
      .inline (.node { element := .rawHtml [value] } [])
  | .softBreak => .lineBreak { soft := true }
  | .hardBreak => .lineBreak { hard := true }
  | .rule => .block (.node { element := .thematicBreak } [])
  | .opened _ | .closed _ | .other => .nothing

/-- What a construct with the given tree is. -/
def Tag.part (tag : Tag) (tree : Tree) : Part :=
  if tag.isInline then .inline tree else .block tree

namespace Passage

/-- The characters of a text event. -/
def characters : Passage → List Char
  | .event ⟨.text content, _⟩ => content.toList
  | _ => []

/-- The range of an event. -/
def ranges : Passage → List Segment
  | .event placed => [placed.range]
  | .construct _ _ _ _ => []

/-- The lines of a construct: those of its text, of its HTML or of a heading. -/
def linesOf (source : Bytes) (tag : Tag) (closing : Segment) (inside : List Passage) :
    List Value :=
  match tag with
  | .indentedCode | .fencedCode _ =>
      (cutAfter (· == '\n') (inside.flatMap characters)).map fun line =>
        .owned (String.ofList line)
  | .htmlBlock => (inside.flatMap ranges).map .source
  | .heading _ => ((Spelling.headingLines? source closing).getD []).map .source
  | _ => []

mutual
/-- What a passage is to the construct around it. -/
def part (source : Bytes) : Passage → Part
  | .event placed => placed.part source
  | .construct tag opening closing inside =>
      let element := tag.element source opening
      let children :=
        if tag.isVerbatim then [] else childrenOf source element (partsOf source inside)
      tag.part (.node { element, lines := linesOf source tag closing inside } children)

/-- The parts that a row of passages is. -/
def partsOf (source : Bytes) : List Passage → List Part
  | [] => []
  | passage :: rest => passage.part source :: partsOf source rest
end

/-- The tree of a whole document. -/
def documentTree (source : Bytes) (passages : List Passage) : Tree :=
  .node { element := .document } (childRow source (partsOf source passages))

end Passage

end MarkdownFormat
