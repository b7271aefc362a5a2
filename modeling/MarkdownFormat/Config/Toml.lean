/-
# Configuration files

Settings are read from a file by the names that they also have on the command line.
A style is given by its name, either as a string or as the only key of a table
whose value is empty. A length is a natural number. Other keys are ignored.
-/

import MarkdownFormat.Config.Overrides
import MarkdownFormat.Toml.Document

namespace MarkdownFormat

/-- A style, given by its name. -/
def styleOf? {α : Type} (ofName? : String → Option α) : Toml.Value → Option α
  | .string name => ofName? name
  | .table _ [(name, .table _ [])] | .table _ [(name, .array [])] => ofName? name
  | _ => none

/-- A length, given by a natural number. -/
def lengthOf? : Toml.Value → Option Nat
  | .integer (.ofNat n) => some n
  | _ => none

/-- The setting of a name, if it is there. The result is `none` if the value does
not suit the setting. -/
def settingOf? {α : Type} (read? : Toml.Value → Option α) (name : String)
    (entries : Toml.Entries) : Option (Option α) :=
  match entries.lookup name with
  | none => some none
  | some value => (read? value).map some

/-- The settings in a configuration file. -/
def Overrides.ofToml? (text : String) : Option Overrides := do
  let entries ← Toml.read? text
  pure {
    indentStyle := ← settingOf? (styleOf? IndentStyle.ofName?) "indent-style" entries
    headingStyle := ← settingOf? (styleOf? HeadingStyle.ofName?) "heading-style" entries
    breakStyle := ← settingOf? (styleOf? BreakStyle.ofName?) "thematic-break-style" entries
    breakLength := ← settingOf? lengthOf? "thematic-break-length" entries
    nestedListLength := ← settingOf? lengthOf? "nested-list-length" entries }

/-- The configuration of a file, with defaults for the settings it leaves out. -/
def Config.ofToml? (text : String) : Option Config :=
  (Overrides.ofToml? text).map ({} : Config).override

end MarkdownFormat
