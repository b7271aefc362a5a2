/-
# Reading Markdown

A source is read in two steps. The first finds its blocks and its link definitions,
the second reads the text of each block. The result is the sequence of parse events
in the order of the source.
-/

import MarkdownFormat.Reader.Blocks
import MarkdownFormat.Reader.Inlines

namespace MarkdownFormat.Markdown

/-- The spaces at the start of a line that a tab left over. -/
def padding (line : LeafLine) : String :=
  String.ofList (List.replicate line.padding ' ')

/-- The range of a line. -/
def lineRange (line : LeafLine) : Segment :=
  let start := line.chars.startOr 0
  ⟨start, line.chars.stopOr start⟩

/-- The events of the lines of a code block. -/
def codeEvents (lines : List LeafLine) : List PlacedEvent :=
  lines.map fun line => ⟨.text (padding line ++ line.chars.string), lineRange line⟩

/-- A line in parts that have no carriage return. -/
def splitCarriageReturn (line : Chars) : List Chars :=
  match line.getLast? with
  | some last =>
    if last.spelling.length = 2 then [line.dropLast, [{ last with start := last.start + 1 }]]
    else [line]
  | none => [line]

/-- The events of the lines of raw HTML. Spaces before a line are text. -/
def htmlEvents (lines : List LeafLine) : List PlacedEvent :=
  lines.flatMap fun line =>
    let start := line.chars.startOr 0
    (if line.padding = 0 then [] else [⟨.text (padding line), ⟨start, start⟩⟩])
      ++ (splitCarriageReturn line.chars).map fun part =>
        let start := part.startOr start
        ⟨.html part.string, ⟨start, part.stopOr start⟩⟩

mutual

/-- The events of a block. In a tight list, paragraphs leave no events of their
own. -/
def blockEvents (context : Inlines.Context) (tight : Bool) : Block → List PlacedEvent
  | .paragraph extent content =>
    let inner := Inlines.events context content
    if tight then inner else Inline.wrap .paragraph extent.range inner
  | .heading extent level content cut =>
    let atCut := cut.toList.map fun stop => ⟨.text "", ⟨stop, stop⟩⟩
    Inline.wrap (.heading level) extent.range (Inlines.events context content ++ atCut)
  | .rule extent => [⟨.rule, extent.range⟩]
  | .indentedCode extent lines => Inline.wrap .indentedCode extent.range (codeEvents lines)
  | .fencedCode extent info lines =>
    Inline.wrap (.fencedCode (Entity.resolve info)) extent.range (codeEvents lines)
  | .html extent lines => Inline.wrap .htmlBlock extent.range (htmlEvents lines)
  | .definitions _ => []
  | .quote extent blocks =>
    Inline.wrap .blockQuote extent.range (blocksEvents context false blocks)
  | .list extent start tight items =>
    Inline.wrap (.list start) extent.range (blocksEvents context tight items)
  | .item extent blocks => Inline.wrap .item extent.range (blocksEvents context tight blocks)

/-- The events of some blocks, in order. -/
def blocksEvents (context : Inlines.Context) (tight : Bool) : List Block → List PlacedEvent
  | [] => []
  | block :: rest => blockEvents context tight block ++ blocksEvents context tight rest

end

/-- The events of a source. -/
def events (source : Bytes) (strikethrough : Bool) : List PlacedEvent :=
  let reader := BlockReader.readLines (Chars.ofBytes source).lines
  let blocks := (reader.frames.head?.map fun frame => frame.blocks.reverse).getD []
  blocksEvents ⟨source, reader.definitions.reverse, strikethrough⟩ false blocks

end MarkdownFormat.Markdown
