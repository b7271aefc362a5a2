/-
# Render options

Render functions can be composed: on the way in they run in order, on the way out
in reverse. An extension is a set of functions for the kinds it claims. Options
set up a renderer with settings and extensions; each has a one-line description.
-/

import MarkdownFormat.Render.Context

namespace MarkdownFormat

/-- Calls render functions one after the other. The answer is that of the last one
called, or the given one if there is none. -/
def runAll (scene : Scene) (id : NodeId) (phase : Phase) (status : WalkStatus) :
    List RenderFn → RenderM WalkStatus
  | [] => return status
  | render :: rest => do
    let status ← render scene id phase
    runAll scene id phase status rest

/-- Several render functions as one, in reverse order on leaving. -/
def chain (renderers : List RenderFn) : RenderFn := fun scene id phase =>
  match phase with
  | .enter => runAll scene id phase .proceed renderers
  | .exit => runAll scene id phase .proceed renderers.reverse

/-- Render functions to be registered together, in order. -/
structure Extension where
  registrations : List (Kind × RenderFn)

/-- What a renderer can be set up with. -/
inductive RenderOption
  | indentStyle (style : IndentStyle)
  | headingStyle (style : HeadingStyle)
  | breakStyle (style : BreakStyle)
  | breakLength (length : Nat)
  | nestedListLength (length : Nat)
  | extension (priority : Int) (extension : Extension)

namespace RenderOption

/-- The caption of an indent style. -/
def indentCaption : IndentStyle → String
  | .spaces => "Spaces"
  | .tabs => "Tabs"

/-- The caption of a heading style. -/
def headingCaption : HeadingStyle → String
  | .atx => "Atx"
  | .atxSurround => "AtxSurround"
  | .setext => "Setext"
  | .fullWidthSetext => "FullWidthSetext"

/-- The caption of a thematic break style. -/
def breakCaption : BreakStyle → String
  | .dashed => "Dashed"
  | .starred => "Starred"
  | .underlined => "Underlined"

/-- An option on one line. What an extension registers is left out. -/
def describe : RenderOption → String
  | .indentStyle style => "IndentStyle(" ++ indentCaption style ++ ")"
  | .headingStyle style => "HeadingStyle(" ++ headingCaption style ++ ")"
  | .breakStyle style => "ThematicBreakStyle(" ++ breakCaption style ++ ")"
  | .breakLength length => "ThematicBreakLength(" ++ toString length ++ ")"
  | .nestedListLength length => "NestedListLength(" ++ toString length ++ ")"
  | .extension priority _ => "NodeRenderer \x7b priority: " ++ toString priority ++ ", .. \x7d"

end RenderOption

end MarkdownFormat
