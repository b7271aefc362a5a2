/-
# Outlines

The outline of a document lists its nodes one to a line, children indented below
their parent, each with its kind and attributes. The content lines that a node
keeps follow it behind a bar. All text in an outline is quoted.
-/

import MarkdownFormat.Document.Basic
import MarkdownFormat.Text.Digits
import MarkdownFormat.Text.Quoted

namespace MarkdownFormat.Document

/-- Quotes what bytes spell. -/
def quotedBytes (bytes : Bytes) : List Char :=
  Quoted.text (Utf8.decodeLossy bytes)

/-- The attributes of an element as an outline shows them. -/
def outlineAttributes (source : Bytes) : Element → List Char
  | .heading level | .emphasis level => " level=".toList ++ Digits.decimal level
  | .list marker ordered start =>
    " marker=".toList ++ Quoted.char (Char.ofNat marker.toNat)
      ++ if ordered then " start=".toList ++ Digits.decimal start else []
  | .fencedCodeBlock (some info) => " info=".toList ++ quotedBytes (info.bytes source)
  | .text value breaks =>
    ' ' :: quotedBytes (value.bytes source)
      ++ (if breaks.soft then " soft".toList else [])
      ++ if breaks.hard then " hard".toList else []
  | .link destination title | .image destination title =>
    " destination=".toList ++ Quoted.text destination.toList
      ++ if title = "" then [] else " title=".toList ++ Quoted.text title.toList
  | .autoLink url => " url=".toList ++ quotedBytes (url.bytes source)
  | _ => []

/-- The lines of an outline that belong to the node itself. -/
def outlineNode (source : Bytes) (indent : Nat) (node : Node) : List Char :=
  List.replicate indent ' ' ++ node.element.kind.name.toList
    ++ outlineAttributes source node.element
    ++ (if node.blankBefore then " blank".toList else []) ++ ['\n']
    ++ node.lines.flatMap fun line =>
      List.replicate (indent + 2) ' ' ++ ['|', ' '] ++ quotedBytes (line.bytes source) ++ ['\n']

/-- The outline of the tree below a node, down to the given depth. -/
def outlineTo (doc : Document) (source : Bytes) : Nat → Nat → NodeId → List Char
  | 0, _, _ => []
  | depth + 1, indent, id =>
    outlineNode source indent (doc.node id)
      ++ (doc.children id).flatMap (doc.outlineTo source depth (indent + 2))

/-- The outline of a document. -/
def outline (doc : Document) (source : Bytes) : String :=
  String.ofList (doc.outlineTo source doc.size 0 root)

end MarkdownFormat.Document
