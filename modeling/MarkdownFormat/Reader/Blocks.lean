/-
# Reading blocks

A source is read line by line. A line first continues the open containers from the
outermost inwards, as far as it can. What is left of it continues the open leaf,
or opens further containers and a new leaf. A line of text that continues an open
paragraph does so even where a container is not continued.
-/

import MarkdownFormat.Reader.Opening

namespace MarkdownFormat.BlockReader

/-- The rest of a line that continues a container. -/
def continues? (container : Container) (cursor : Cursor) : Option Cursor :=
  match container with
  | .root | .list _ => some cursor
  | .quote => Opening.afterQuoteMarker? cursor
  | .item indent =>
    if cursor.isBlank || indent ≤ cursor.indent then some (cursor.skip indent) else none
  | .barrenItem _ => if cursor.isBlank then some cursor else none

/-- The number of containers, from the outermost inwards, that a line continues,
and the rest of the line. -/
def continued : List Frame → Cursor → Nat × Cursor
  | [], cursor => (0, cursor)
  | frame :: inner, cursor =>
    match continues? frame.container cursor with
    | none => (0, cursor)
    | some rest =>
      let (count, rest) := continued inner rest
      (count + 1, rest)

/-- The rest of a line as a line of a leaf. -/
def leafLine (cursor : Cursor) : LeafLine :=
  ⟨cursor.owed, cursor.rest⟩

/-- The reader after a line that continues the open code or HTML; none if there is
no such leaf, or the line does not continue it. -/
def continueLeaf? (reader : BlockReader) (cursor : Cursor) : Option BlockReader :=
  match reader.leaf with
  | none => none
  | some leaf =>
    match leaf.kind with
    | .paragraph => none
    | .indentedCode =>
      if cursor.isBlank || 4 ≤ cursor.indent then
        some (reader.extendLeaf (leafLine (cursor.skip 4)))
      else none
    | .fencedCode fence length indent _ =>
      if Opening.closesFence fence length cursor then
        let stop := (Chars.trimEnd cursor.rest).stopOr reader.offset
        some (reader.closeLeafAt reader.line stop)
      else some (reader.extendLeaf (leafLine (cursor.skip indent)))
    | .html ending =>
      if ending = .blankLine && cursor.isBlank then none
      else
        let reader := reader.extendLeaf (leafLine cursor)
        if ending.endsWith cursor.rest then
          some (reader.closeLeafAt reader.line (cursor.rest.stopOr reader.offset))
        else some reader

/-- Makes the open paragraph a heading of the given level, which ends with the
current line. None if the paragraph consists of link definitions. -/
def underline? (reader : BlockReader) (level stop : Nat) : Option BlockReader :=
  match reader.leaf with
  | none => none
  | some leaf =>
    let (definitions, blocks) := paragraphBlocks leaf reader.line stop (some level)
    match blocks.getLast? with
    | some (.heading _ _ _ _) =>
      let reader := { reader with
        leaf := none, definitions := definitions.reverse ++ reader.definitions }
      some (blocks.foldl add reader)
    | _ => none

/-- Whether an item can begin here. Below a paragraph it needs content, and an
ordered one the number 1. -/
def canOpenItem (belowParagraph : Bool) (opening : Opening.ItemOpening) : Bool :=
  !belowParagraph || (!opening.content.isBlank && opening.marker.number.getD 1 = 1)

/-- Opens the list of an item, unless the innermost container is that list. -/
def openList (reader : BlockReader) (marker : ListMarker) (start : Nat) : BlockReader :=
  match reader.frames with
  | ⟨.list other, _, _, _⟩ :: _ =>
    if other.sign = marker.sign then reader
    else (reader.closeFrame start).openFrame (.list marker) start
  | _ => reader.openFrame (.list marker) start

/-- Adds a line of text, to the open paragraph or as a new one. -/
def addText (reader : BlockReader) (kept : Nat) (cursor : Cursor) : BlockReader :=
  if reader.inParagraph then reader.extendLeaf (leafLine cursor)
  else
    let text := cursor.skipAll.rest
    let start := text.startOr reader.offset
    let reader := (reader.closeTo kept).closeList start
    reader.openLeaf .paragraph start (text.stopOr reader.offset) [⟨0, text⟩]

/-- Opens a leaf with the rest of a line that is indented by at most three columns.
None if the line is plain text. -/
def openLeaf? (reader : BlockReader) (kept : Nat) (belowParagraph : Bool) (cursor : Cursor) :
    Option BlockReader :=
  let text := cursor.skipAll.rest
  let start := text.startOr reader.offset
  let stop := text.stopOr reader.offset
  let closed := (reader.closeTo kept).closeList reader.offset
  match Opening.heading? text with
  | some (level, rest) =>
    let (content, cut) := Opening.headingText rest
    some (closed.addLine start stop fun extent => .heading extent level content cut)
  | none =>
  match Opening.fence? text with
  | some (fence, length, info) =>
    some (closed.openLeaf (.fencedCode fence length cursor.indent info) start stop [])
  | none =>
  match Html.ending? reader.inParagraph text with
  | some ending =>
    let opened := closed.openLeaf (.html ending) start stop [⟨cursor.indent, text⟩]
    some (if ending.endsWith text then opened.closeLeafAt opened.line stop else opened)
  | none =>
  match (if belowParagraph then Opening.underline? text else none).bind fun level =>
      reader.underline? level stop with
  | some reader => some reader
  | none =>
    if Opening.isRule text then some (closed.addLine start stop .rule) else none

/-- Reads the rest of a line that continues `kept` containers and no raw leaf. -/
def openBlocks : Nat → BlockReader → Nat → Cursor → BlockReader
  | 0, reader, kept, cursor => reader.addText kept cursor
  | fuel + 1, reader, kept, cursor =>
    let belowParagraph := reader.inParagraph && kept = reader.frames.length
    if cursor.isBlank then (reader.closeTo kept).takeBlank
    else if 4 ≤ cursor.indent then
      if reader.inParagraph then reader.addText kept cursor
      else
        let code := cursor.skip 4
        let closed := (reader.closeTo kept).closeList reader.offset
        closed.openLeaf .indentedCode (code.rest.startOr reader.offset)
          (code.rest.stopOr reader.offset) [leafLine code]
    else
      match Opening.afterQuoteMarker? cursor with
      | some content =>
        let start := cursor.skipAll.rest.startOr reader.offset
        let opened := ((reader.closeTo kept).closeList reader.offset).openFrame .quote start
        openBlocks fuel opened opened.frames.length content
      | none =>
      match openLeaf? reader kept belowParagraph cursor with
      | some reader => reader
      | none =>
      match (Opening.item? cursor).filter (canOpenItem belowParagraph) with
      | some opening =>
        let start := cursor.rest.startOr reader.offset
        let opened := ((reader.closeTo kept).openList opening.marker start).openFrame
          (.item opening.indent) start
        if opening.content.isBlank then opened
        else openBlocks fuel opened opened.frames.length opening.content
      | none => reader.addText kept cursor

/-- Reads a line. -/
def takeLine (reader : BlockReader) (line : Chars) : BlockReader :=
  let (kept, cursor) := continued reader.frames.reverse (Cursor.ofLine line)
  let next := match if kept = reader.frames.length then reader.continueLeaf? cursor else none with
    | some reader => reader
    | none => openBlocks (line.length + 1) reader kept cursor
  { next with line := reader.line + 1, offset := line.stopOr reader.offset }

/-- Reads all lines and closes what is open. -/
def readLines (lines : List Chars) : BlockReader :=
  (lines.foldl takeLine {}).closeTo 1

end MarkdownFormat.BlockReader
