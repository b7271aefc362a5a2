/-
# Renderers

A renderer has a render function for each kind it knows, and a configuration.
Rendering walks the document, calls the function of each node's kind on the way
in and on the way out, and stops at the first write that fails. A kind without a
function is passed over with a warning; its children are rendered.

Functions registered for a block kind keep what all blocks have in common.
Extensions are registered in ascending priority, so the highest has the last word
on a kind that several of them claim.
-/

import MarkdownFormat.Render.Block
import MarkdownFormat.Render.Option

namespace MarkdownFormat

/-- A render function within what all blocks have in common. -/
def asBlock (render : RenderFn) : RenderFn :=
  chain [Render.separator, render]

/-- Render functions by kind, and the settings they go by. -/
structure Renderer where
  config : Config
  functions : Kind → Option RenderFn

/-- The extension that writes struck-out text. -/
def Extension.strikethrough : Extension :=
  ⟨[(.strikethrough, Render.strikethrough)]⟩

/-- Why a rendering did not come to its end. -/
inductive RenderFault
  | misuse (misuse : Misuse)
  | io (fault : IoFault)
  deriving DecidableEq, Repr

namespace Renderer

/-- The render functions of the core kinds. -/
def builtIn : Kind → Option RenderFn
  | .document | .paragraph | .textBlock => some Render.separator
  | .heading => some (asBlock Render.heading)
  | .blockquote => some (asBlock Render.blockquote)
  | .codeBlock => some (asBlock Render.codeBlock)
  | .fencedCodeBlock => some (asBlock Render.fencedCodeBlock)
  | .htmlBlock => some (asBlock Render.htmlBlock)
  | .list => some (asBlock Render.list)
  | .listItem => some (asBlock Render.listItem)
  | .thematicBreak => some (asBlock Render.thematicBreak)
  | .autoLink => some Render.autoLink
  | .codeSpan => some Render.codeSpan
  | .emphasis => some Render.emphasis
  | .image => some Render.image
  | .link => some Render.link
  | .rawHtml => some Render.rawHtml
  | .text => some Render.text
  | .custom name block =>
    if Kind.custom name block = .unsupported then some (asBlock Render.transparent) else none

/-- The renderer of the core kinds. -/
def standard (config : Config := {}) : Renderer :=
  ⟨config, builtIn⟩

/-- Makes a function the one for a kind. -/
def register (renderer : Renderer) (kind : Kind) (render : RenderFn) : Renderer :=
  let render := if kind.isBlock then asBlock render else render
  { renderer with functions := fun k => if k = kind then some render else renderer.functions k }

/-- Registers all functions of an extension, in order. -/
def install (renderer : Renderer) (extension : Extension) : Renderer :=
  extension.registrations.foldl (fun r entry => r.register entry.1 entry.2) renderer

/-- Applies an option that concerns the configuration. -/
def configure (config : Config) : RenderOption → Config
  | .indentStyle indentStyle => { config with indentStyle }
  | .headingStyle headingStyle => { config with headingStyle }
  | .breakStyle breakStyle => { config with breakStyle }
  | .breakLength breakLength => { config with breakLength }
  | .nestedListLength nestedListLength => { config with nestedListLength }
  | .extension _ _ => config

/-- The extension of an option, with its priority. -/
def prioritised? : RenderOption → Option (Int × Extension)
  | .extension priority extension => some (priority, extension)
  | _ => none

/-- The extensions among some options, in the order of installation: by ascending
priority, and as given where priorities are equal. -/
def extensionsInOrder (options : List RenderOption) : List Extension :=
  ((options.filterMap prioritised?).mergeSort fun a b => a.1 ≤ b.1).map Prod.snd

/-- Applies options: first the settings, then the extensions. -/
def addOptions (renderer : Renderer) (options : List RenderOption) : Renderer :=
  (extensionsInOrder options).foldl install
    { renderer with config := options.foldl configure renderer.config }

/-- A renderer with the given settings, and with struck-out text if wanted. -/
def forMarkdown (config : Config) (strikethrough : Bool) : Renderer :=
  if strikethrough then (standard config).addOptions [.extension 0 .strikethrough]
  else standard config

variable (renderer : Renderer)

/-- Whether a kind has a render function. -/
def hasRenderer (kind : Kind) : Bool :=
  (renderer.functions kind).isSome

/-- Visits a node with the function of its kind. -/
def dispatch : RenderFn := fun scene id phase =>
  let kind := scene.document.kind id
  match renderer.functions kind with
  | some render => render scene id phase
  | none => do
    if phase = .enter then RenderM.warn (.noRenderer kind)
    return .proceed

/-- Ends a rendering whose sink has failed. -/
def checkSink : EStateM RenderFault RenderState Unit := do
  let state ← get
  let (result, writer) := state.writer.check
  set { state with writer }
  match result with
  | .ok () => return ()
  | .error fault => throw (.io fault)

/-- Visits a node and makes sure that everything written arrived. -/
def visit (scene : Scene) : Visitor RenderFault RenderState := fun id phase => do
  let status ← (renderer.dispatch scene id phase).adaptExcept .misuse
  checkSink
  return status

/-- Renders the tree below a node. -/
def renderNodeM (scene : Scene) (id : NodeId) : EStateM RenderFault RenderState Unit := do
  let _ ← scene.document.walk (renderer.visit scene) id
  modify fun state => { state with writer := state.writer.flushLine }
  checkSink

/-- The outcome of a rendering: what stopped it, if anything did, and the state it
left behind. -/
def renderNode (sink : Sink) (source : Bytes) (document : Document) (id : NodeId) :
    Option RenderFault × RenderState :=
  match renderer.renderNodeM ⟨source, document, renderer.config⟩ id
      { writer := LineWriter.onto sink } with
  | .ok () state => (none, state)
  | .error fault state => (some fault, state)

/-- Renders a whole document. -/
def render (sink : Sink) (source : Bytes) (document : Document) :
    Option RenderFault × RenderState :=
  renderer.renderNode sink source document Document.root

/-- Renders a whole document as text, and gives the warnings too. -/
def renderText (source : Bytes) (document : Document) :
    Except RenderFault String × List Warning :=
  let (fault, state) := renderer.render .unlimited source document
  let text := match fault with
    | some fault => .error fault
    | none =>
      match Utf8.decode state.writer.sink.content with
      | .ok text => .ok (String.ofList text)
      | .error defect => .error (.io (.notText defect))
  (text, state.warnings.toList)

end Renderer

end MarkdownFormat
