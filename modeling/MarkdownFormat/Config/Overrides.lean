/-
# Overrides

A configuration file and the command line each give some of the settings. What they
leave out stays as it was.
-/

import MarkdownFormat.Config.Basic

namespace MarkdownFormat

/-- Some of the settings. -/
structure Overrides where
  indentStyle : Option IndentStyle := none
  headingStyle : Option HeadingStyle := none
  breakStyle : Option BreakStyle := none
  breakLength : Option Nat := none
  nestedListLength : Option Nat := none
  deriving DecidableEq, Repr

/-- Replaces the settings that are given. -/
def Config.override (config : Config) (given : Overrides) : Config where
  indentStyle := given.indentStyle.getD config.indentStyle
  headingStyle := given.headingStyle.getD config.headingStyle
  breakStyle := given.breakStyle.getD config.breakStyle
  breakLength := given.breakLength.getD config.breakLength
  nestedListLength := given.nestedListLength.getD config.nestedListLength

end MarkdownFormat
