/-
# Node kinds

A document is made of blocks and inlines. `Element` is what one node is, with
the attributes of its kind; `Kind` is the bare kind, under which a renderer is
looked up. Kinds outside the core set are told apart by name and by whether they
are blocks.
-/

import MarkdownFormat.Value

namespace MarkdownFormat

/-- What a node is, without attributes. -/
inductive Kind
  | document
  | heading
  | paragraph
  | textBlock
  | list
  | listItem
  | codeBlock
  | fencedCodeBlock
  | htmlBlock
  | blockquote
  | thematicBreak
  | text
  | emphasis
  | codeSpan
  | link
  | image
  | autoLink
  | rawHtml
  /-- A kind that an extension brings along. -/
  | custom (name : String) (block : Bool)
  deriving DecidableEq, Repr

namespace Kind

/-- Struck-out text, an inline kind. -/
def strikethrough : Kind :=
  .custom "Strikethrough" false

/-- A block that is kept only for the sake of its children. -/
def unsupported : Kind :=
  .custom "Unsupported" true

/-- Whether nodes of a kind stand on lines of their own. -/
def isBlock : Kind → Bool
  | .document | .heading | .paragraph | .textBlock | .list | .listItem | .codeBlock
  | .fencedCodeBlock | .htmlBlock | .blockquote | .thematicBreak => true
  | .text | .emphasis | .codeSpan | .link | .image | .autoLink | .rawHtml => false
  | .custom _ block => block

/-- The name of a kind in outlines and messages. -/
def name : Kind → String
  | .document => "Document"
  | .heading => "Heading"
  | .paragraph => "Paragraph"
  | .textBlock => "TextBlock"
  | .list => "List"
  | .listItem => "ListItem"
  | .codeBlock => "CodeBlock"
  | .fencedCodeBlock => "FencedCodeBlock"
  | .htmlBlock => "HTMLBlock"
  | .blockquote => "Blockquote"
  | .thematicBreak => "ThematicBreak"
  | .text => "Text"
  | .emphasis => "Emphasis"
  | .codeSpan => "CodeSpan"
  | .link => "Link"
  | .image => "Image"
  | .autoLink => "AutoLink"
  | .rawHtml => "RawHTML"
  | .custom name _ => name

end Kind

/-- Which line break follows a text. -/
structure LineBreaks where
  /-- A line ending that counts as a space. -/
  soft : Bool := false
  /-- A line ending that breaks the line. -/
  hard : Bool := false
  deriving DecidableEq, Repr

/-- What a node is, with the attributes of its kind. -/
inductive Element
  /-- The root of a document. -/
  | document
  | heading (level : Nat)
  | paragraph
  /-- Inline content of a tight list item: a paragraph without separation. -/
  | textBlock
  /-- A list. The marker is the bullet, or what follows the number of an item. The start has at
  most 64 bits where the document is read. -/
  | list (marker : UInt8) (ordered : Bool) (start : Nat)
  | listItem
  /-- A code block set off by indentation. -/
  | codeBlock
  /-- A code block between fences, with the info string after the first. -/
  | fencedCodeBlock (info : Option Value)
  /-- Raw HTML, with the line that closes it if that is kept apart. -/
  | htmlBlock (closure : Option Value)
  | blockquote
  | thematicBreak
  | text (value : Value) (breaks : LineBreaks)
  /-- Emphasis: level 1, strong: level 2, both at once: level 3. -/
  | emphasis (level : Nat)
  /-- A code span; its content is that of its text children. -/
  | codeSpan
  | link (destination title : String)
  | image (destination title : String)
  /-- An address between angle brackets. -/
  | autoLink (url : Value)
  | rawHtml (segments : List Value)
  | custom (name : String) (block : Bool)
  deriving DecidableEq, Repr

namespace Element

/-- A text that no line break follows. -/
def plainText (value : Value) : Element :=
  .text value {}

/-- The kind of an element. -/
def kind : Element → Kind
  | .document => .document
  | .heading _ => .heading
  | .paragraph => .paragraph
  | .textBlock => .textBlock
  | .list _ _ _ => .list
  | .listItem => .listItem
  | .codeBlock => .codeBlock
  | .fencedCodeBlock _ => .fencedCodeBlock
  | .htmlBlock _ => .htmlBlock
  | .blockquote => .blockquote
  | .thematicBreak => .thematicBreak
  | .text _ _ => .text
  | .emphasis _ => .emphasis
  | .codeSpan => .codeSpan
  | .link _ _ => .link
  | .image _ _ => .image
  | .autoLink _ => .autoLink
  | .rawHtml _ => .rawHtml
  | .custom name block => .custom name block

end Element

end MarkdownFormat
