/-
# Configuration

The settings of a rendering, and how they are set by name. Lengths are kept as given; the least lengths
that Markdown still recognises are applied when they are used.
-/

import MarkdownFormat.Config.Style
import MarkdownFormat.Text.Digits

namespace MarkdownFormat

/-- The settings of a rendering. -/
structure Config where
  /-- Indentation of indented code blocks. -/
  indentStyle : IndentStyle := .spaces
  headingStyle : HeadingStyle := .atx
  breakStyle : BreakStyle := .dashed
  /-- Wanted length of a thematic break. -/
  breakLength : Nat := 3
  /-- Wanted multiple of the width of an item's marker by which its later lines
  are indented. -/
  nestedListLength : Nat := 1
  deriving DecidableEq, Repr

/-- A setting that was refused: its name and the value given for it. -/
structure InvalidOption where
  name : String
  value : String
  deriving DecidableEq, Repr

/-- The wording of a refusal. -/
def InvalidOption.message (refused : InvalidOption) : String :=
  "Invalid value '" ++ refused.value ++ "' for option " ++ refused.name

namespace Config

/-- The length of a thematic break, at least three. -/
def effectiveBreakLength (config : Config) : Nat :=
  max config.breakLength 3

/-- The multiple used for the indentation of items, at least one. -/
def effectiveNestedListLength (config : Config) : Nat :=
  max config.nestedListLength 1

/-- What was read from the value of a setting. Where nothing was, the setting is refused. -/
def readOr {α : Type} (name value : String) (read : Option α) :
    EStateM InvalidOption Config α :=
  match read with
  | some setting => pure setting
  | none => throw ⟨name, value⟩

/-- Changes the setting of the given name. The configuration is at hand afterwards also where the
setting is refused. -/
def changeOption (name value : String) : EStateM InvalidOption Config Unit :=
  match name with
  | "indent-style" => do
    let style ← readOr name value (IndentStyle.ofName? value)
    modify ({ · with indentStyle := style })
  | "heading-style" => do
    let style ← readOr name value (HeadingStyle.ofName? value)
    modify ({ · with headingStyle := style })
  | "thematic-break-style" => do
    let style ← readOr name value (BreakStyle.ofName? value)
    modify ({ · with breakStyle := style })
  | "thematic-break-length" => do
    let length ← readOr name value (Digits.readLength? value.toList)
    modify ({ · with breakLength := length })
  | "nested-list-length" => do
    let length ← readOr name value (Digits.readLength? value.toList)
    modify ({ · with nestedListLength := length })
  | _ => throw ⟨name, value⟩

/-- The configuration with the setting of the given name changed. -/
def setOption (config : Config) (name value : String) : Except InvalidOption Config :=
  match changeOption name value config with
  | .ok _ changed => .ok changed
  | .error refused _ => .error refused

end Config

end MarkdownFormat
