/-
# Styles

Where Markdown has several spellings for one construct, a style says which of
them is written. Styles go by kebab-case names on the command line and in
configuration files.
-/

import MarkdownFormat.Text.Utf8

namespace MarkdownFormat

/-- How indented code is indented. -/
inductive IndentStyle
  | spaces
  | tabs
  deriving DecidableEq, Repr

/-- How headings are written. -/
inductive HeadingStyle
  /-- Number signs in front. -/
  | atx
  /-- Number signs on both sides. -/
  | atxSurround
  /-- A short underline. Only the first two levels have one. -/
  | setext
  /-- An underline as wide as the heading. -/
  | fullWidthSetext
  deriving DecidableEq, Repr

/-- The character of a thematic break. -/
inductive BreakStyle
  | dashed
  | starred
  | underlined
  deriving DecidableEq, Repr

/-- The first of some named values that has the given name. -/
def named? {α : Type} (name : α → String) (values : List α) (wanted : String) : Option α :=
  values.find? fun value => name value = wanted

namespace IndentStyle

/-- All indent styles, in the order in which they are listed. -/
def all : List IndentStyle :=
  [.spaces, .tabs]

/-- The name of an indent style. -/
def name : IndentStyle → String
  | .spaces => "spaces"
  | .tabs => "tabs"

/-- The indent style of a name. -/
def ofName? (text : String) : Option IndentStyle :=
  named? name all text

/-- One step of indentation. -/
def unit : IndentStyle → String
  | .spaces => "    "
  | .tabs => "\t"

end IndentStyle

namespace HeadingStyle

/-- All heading styles, in the order in which they are listed. -/
def all : List HeadingStyle :=
  [.atx, .atxSurround, .setext, .fullWidthSetext]

/-- The name of a heading style. -/
def name : HeadingStyle → String
  | .atx => "atx"
  | .atxSurround => "atx-surround"
  | .setext => "setext"
  | .fullWidthSetext => "full-width-setext"

/-- The heading style of a name. -/
def ofName? (text : String) : Option HeadingStyle :=
  named? name all text

/-- Whether headings are underlined where that is possible. -/
def isSetext : HeadingStyle → Bool
  | .atx | .atxSurround => false
  | .setext | .fullWidthSetext => true

end HeadingStyle

namespace BreakStyle

/-- All thematic break styles, in the order in which they are listed. -/
def all : List BreakStyle :=
  [.dashed, .starred, .underlined]

/-- The name of a thematic break style. -/
def name : BreakStyle → String
  | .dashed => "dashed"
  | .starred => "starred"
  | .underlined => "underlined"

/-- The thematic break style of a name. -/
def ofName? (text : String) : Option BreakStyle :=
  named? name all text

/-- The character that a thematic break repeats. -/
def char : BreakStyle → Char
  | .dashed => '-'
  | .starred => '*'
  | .underlined => '_'

end BreakStyle

end MarkdownFormat
