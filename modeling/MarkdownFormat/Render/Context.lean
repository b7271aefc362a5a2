/-
# Rendering state

What a rendering remembers between two visits: the line writer, the lists and the
code span it is inside of, and the warnings given so far. A render function works
on this state and answers how the walk goes on. It can only go wrong by taking
away a lead or a list that is not there.
-/

import MarkdownFormat.Config.Basic
import MarkdownFormat.Document.Walk
import MarkdownFormat.LineWriter

namespace MarkdownFormat

/-- The list that an item belongs to. Its items are counted without a bound. A counter of 64 bits
gives the same numbers while the start of the list and the number of its items, taken together,
are below `2 ^ 64`. -/
structure ListFrame where
  /-- The bullet, or what follows the number of an item. -/
  marker : UInt8
  ordered : Bool
  /-- The number of the next item. -/
  ordinal : Nat
  deriving DecidableEq, Repr

/-- How a code span is set off. -/
structure CodeSpanStyle where
  /-- Number of backticks at each end. -/
  fence : Nat := 0
  /-- Whether a space separates the content from the backticks. -/
  padded : Bool := false
  deriving DecidableEq, Repr

/-- Something noteworthy that does not end a rendering. -/
inductive Warning
  | noRenderer (kind : Kind)
  | itemOutsideList
  deriving DecidableEq, Repr

/-- The wording of a warning. -/
def Warning.message : Warning → String
  | .noRenderer kind => "no renderer for " ++ kind.name ++ " nodes, rendering their children only"
  | .itemOutsideList => "list item outside of a list, using a bullet"

/-- A mistake of a render function. -/
inductive Misuse
  | noLead
  | noList
  deriving DecidableEq, Repr

/-- The wording of a mistake. -/
def Misuse.message : Misuse → String
  | .noLead => "pop_prefix called without a matching push_prefix"
  | .noList => "pop_list called outside of a list"

/-- What is rendered, and how. It stays the same from start to end. -/
structure Scene where
  source : Bytes
  document : Document
  config : Config

/-- The changing state of a rendering. -/
structure RenderState where
  writer : LineWriter
  /-- The open lists, the innermost first. -/
  lists : List ListFrame := []
  /-- The open code span. -/
  codeSpan : Option CodeSpanStyle := none
  /-- All warnings so far, in order. -/
  warnings : Array Warning := #[]

/-- An action on the state of a rendering. -/
abbrev RenderM :=
  EStateM Misuse RenderState

/-- Renders the nodes of one kind, on entering and on leaving them. -/
abbrev RenderFn :=
  Scene → NodeId → Phase → RenderM WalkStatus

/-- The node that a render function is called for. -/
def Scene.node (scene : Scene) (id : NodeId) : Node :=
  scene.document.node id

namespace RenderM

/-- Changes the line writer. -/
def modifyWriter (change : LineWriter → LineWriter) : RenderM Unit :=
  modify fun state => { state with writer := change state.writer }

/-- Writes bytes. -/
def put (bytes : Bytes) : RenderM Unit :=
  modifyWriter (·.put bytes)

/-- Writes characters. -/
def putText (text : List Char) : RenderM Unit :=
  put (Utf8.encode text)

/-- Ends the current line, an empty one too. -/
def endLine : RenderM Unit :=
  modifyWriter (·.endLine)

/-- Ends the current line unless it is empty. -/
def flushLine : RenderM Unit :=
  modifyWriter (·.flushLine)

/-- Puts bytes in front of the given lines. -/
def pushLead (bytes : Bytes) (lines : LeadLines) : RenderM Unit :=
  modifyWriter (·.pushLead bytes lines)

/-- Removes the latest lead. -/
def popLead : RenderM Unit := do
  let state ← get
  match state.writer.popLead? with
  | some writer => set { state with writer }
  | none => throw .noLead

/-- Enters a list. -/
def pushList (frame : ListFrame) : RenderM Unit :=
  modify fun state => { state with lists := frame :: state.lists }

/-- Leaves the innermost list. -/
def popList : RenderM ListFrame := do
  let state ← get
  match state.lists with
  | frame :: lists =>
    set { state with lists }
    return frame
  | [] => throw .noList

/-- Opens or closes a code span. -/
def setCodeSpan (codeSpan : Option CodeSpanStyle) : RenderM Unit :=
  modify ({ · with codeSpan })

/-- Gives a warning. -/
def warn (warning : Warning) : RenderM Unit :=
  modify fun state => { state with warnings := state.warnings.push warning }

end RenderM

end MarkdownFormat
