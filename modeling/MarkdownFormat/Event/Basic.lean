/-
# Parse events

A reader of Markdown reports what it finds as a sequence of events, each with the
source range it stands for. Constructs with content are opened and closed; what
lies between belongs to them. The content of text is given by its range alone,
except where the spelling in the source is not the content: in code, in raw HTML
and in the attributes of links.
-/

import MarkdownFormat.Value

namespace MarkdownFormat

/-- How a link was written. -/
inductive LinkForm
  | inline
  | reference
  /-- A web address between angle brackets. -/
  | autolink
  /-- A mail address between angle brackets. -/
  | email
  deriving DecidableEq, Repr

/-- A construct with content. -/
inductive Tag
  | paragraph
  | heading (level : Nat)
  | blockQuote
  | indentedCode
  | fencedCode (info : String)
  | htmlBlock
  /-- A list, ordered if it has a first number. -/
  | list (start : Option Nat)
  | item
  | emphasis
  | strong
  | strikethrough
  | link (form : LinkForm) (destination title : String)
  | image (destination title : String)
  /-- A construct that documents do not model. -/
  | other
  deriving DecidableEq, Repr

/-- The constructs whose end matters beyond closing them. -/
inductive EndTag
  | heading
  | codeBlock
  | htmlBlock
  | other
  deriving DecidableEq, Repr

/-- What a reader reports. -/
inductive Event
  | opened (tag : Tag)
  | closed (tag : EndTag)
  | text (content : String)
  | code (content : String)
  /-- One line of an HTML block. -/
  | html (content : String)
  | inlineHtml (content : String)
  | softBreak
  | hardBreak
  | rule
  /-- Something that documents do not model. -/
  | other
  deriving DecidableEq, Repr

/-- The event that closes a construct. -/
def Tag.endTag : Tag → EndTag
  | .heading _ => .heading
  | .indentedCode | .fencedCode _ => .codeBlock
  | .htmlBlock => .htmlBlock
  | _ => .other

/-- An event and the source range it stands for. -/
structure PlacedEvent where
  event : Event
  range : Segment
  deriving DecidableEq, Repr

end MarkdownFormat
