/-
# What render functions ask of the writer

A render function never looks at the line writer. What it asks of the writer is a
script that depends on the document, on the open lists and on the open code span
alone, and so does the state that it leaves behind. `Performs` says so of one action;
here it is shown for the actions that render functions are made of and for the render
functions themselves, with their scripts.

A render function is paired if leaving a node takes away the leads and the lists that
entering it put there. All built-in functions are.
-/

import MarkdownFormat.Proofs.Writer.Script
import MarkdownFormat.Render.Renderer

namespace MarkdownFormat

open RenderM

/-- Whatever writer the action is given, it makes the calls of the script on it, as
long as the script goes through. The writers of the two states do not matter. -/
def Performs {α : Type} (action : RenderM α) (before : RenderState)
    (script : List WriterCall) (answer : α) (after : RenderState) : Prop :=
  ∀ writer written, writer.run? script = some written →
    action { before with writer } = .ok answer { after with writer := written }

/-- Reading the state hands it to what comes next. -/
theorem get_bind_apply {ε σ α : Type} (next : σ → EStateM ε σ α) (state : σ) :
    (get >>= next) state = next state state := rfl

namespace Performs

variable {α β : Type} {state before middle after : RenderState}

/-- An action that only answers asks nothing of the writer. -/
theorem pure (answer : α) : Performs (pure answer) state [] answer state := by
  intro writer written hrun
  cases hrun
  rfl

/-- Actions one after the other ask for one script after the other. -/
theorem bind {action : RenderM α} {next : α → RenderM β} {first second : List WriterCall}
    {answer : α} {last : β} (haction : Performs action before first answer middle)
    (hnext : Performs (next answer) middle second last after) :
    Performs (action >>= next) before (first ++ second) last after := by
  intro writer written hrun
  obtain ⟨between, hfirst, hsecond⟩ := LineWriter.run?_append_eq_some.mp hrun
  show EStateM.bind action next _ = _
  rw [EStateM.bind, haction writer between hfirst]
  exact hnext between written hsecond

/-- An answer that is given in the end costs nothing. -/
theorem answer {action : RenderM α} {script : List WriterCall} {answer : α} {last : β}
    (haction : Performs action before script answer after) :
    Performs (action >>= fun _ => Pure.pure last) before script last after := by
  rw [← List.append_nil script]
  exact haction.bind (pure last)

/-- What an action asks for may depend on a condition. -/
theorem ite {condition : Prop} [Decidable condition] {first second : RenderM α}
    {firstScript secondScript : List WriterCall} {answer : α}
    (hfirst : Performs first before firstScript answer after)
    (hsecond : Performs second before secondScript answer after) :
    Performs (if condition then first else second) before
      (if condition then firstScript else secondScript) answer after := by
  split
  · exact hfirst
  · exact hsecond

/-- An action may read the state as long as it does not matter what writer it sees. -/
theorem get_bind {next : RenderState → RenderM β} {action : RenderM β}
    {script : List WriterCall} {answer : β}
    (hnext : ∀ writer, next { before with writer } = action)
    (haction : Performs action before script answer after) :
    Performs (get >>= next) before script answer after := by
  intro writer written hrun
  show next { before with writer } { before with writer } = _
  rw [hnext writer]
  exact haction writer written hrun

/-- Putting bytes is one write. -/
theorem put (bytes : Bytes) : Performs (put bytes) state [.write bytes] () state := by
  intro writer written hrun
  cases hrun
  rfl

/-- Putting text is one write of its encoding. -/
theorem putText (text : List Char) :
    Performs (putText text) state [.write (Utf8.encode text)] () state :=
  put _

/-- Ending a line is one call. -/
theorem endLine : Performs endLine state [.endLine] () state := by
  intro writer written hrun
  cases hrun
  rfl

/-- Flushing a line is one call. -/
theorem flushLine : Performs flushLine state [.flushLine] () state := by
  intro writer written hrun
  cases hrun
  rfl

/-- Pushing a lead is one call. -/
theorem pushLead (bytes : Bytes) (lines : LeadLines) :
    Performs (pushLead bytes lines) state [.pushLead bytes lines] () state := by
  intro writer written hrun
  cases hrun
  rfl

/-- Popping a lead is one call. That there is one is left to the script. -/
theorem popLead : Performs popLead state [.popLead] () state := by
  intro writer written hrun
  obtain ⟨next, hcall, hrest⟩ := Option.bind_eq_some_iff.mp hrun
  cases hrest
  have hpop : writer.popLead? = some written := hcall
  rw [RenderM.popLead, get_bind_apply]
  simp only [hpop]
  rfl

/-- A list is opened without a call. -/
theorem pushList (frame : ListFrame) :
    Performs (pushList frame) state [] () { state with lists := frame :: state.lists } := by
  intro writer written hrun
  cases hrun
  rfl

/-- The innermost list is closed without a call. -/
theorem popList {frame : ListFrame} {lists : List ListFrame}
    (hlists : state.lists = frame :: lists) :
    Performs popList state [] frame { state with lists } := by
  intro writer written hrun
  cases hrun
  rw [RenderM.popList, get_bind_apply]
  simp only [hlists]
  rfl

/-- A code span is opened and closed without a call. -/
theorem setCodeSpan (codeSpan : Option CodeSpanStyle) :
    Performs (setCodeSpan codeSpan) state [] () { state with codeSpan } := by
  intro writer written hrun
  cases hrun
  rfl

/-- A warning is given without a call. -/
theorem warn (warning : Warning) :
    Performs (warn warning) state [] ()
      { state with warnings := state.warnings.push warning } := by
  intro writer written hrun
  cases hrun
  rfl

/-- Work on each member of a list is done one after the other. -/
theorem forM {items : List α} {action : α → RenderM PUnit}
    {script : α → List WriterCall}
    (haction : ∀ item ∈ items, Performs (action item) state (script item) ⟨⟩ state) :
    Performs (items.forM action) state (items.flatMap script) ⟨⟩ state := by
  induction items with
  | nil => exact pure _
  | cons item items ih =>
      refine (haction item List.mem_cons_self).bind (ih ?_)
      exact fun other hother => haction other (List.mem_cons_of_mem _ hother)

end Performs

/-- The calls that write content lines, each on a line of its own. -/
def contentScript (source : Bytes) (lines : List Value) : List WriterCall :=
  lines.flatMap fun line => [.write (line.bytes source), .flushLine]

namespace Heading

/-- The number signs of a heading. -/
def marks (level : Nat) : List Char :=
  List.replicate level '#'

/-- The calls that a heading makes before and after its content. -/
def script (scene : Scene) (id : NodeId) (level : Nat) : Phase → List WriterCall
  | .enter =>
      if isUnderlined scene id level then []
      else .write (Utf8.encode (marks level)) ::
        if scene.document.hasChildren id then [.write (Utf8.encode [' '])] else []
  | .exit =>
      if isUnderlined scene id level then
        [.endLine, .write (Utf8.encode (underline scene id level))]
      else if scene.config.headingStyle = .atxSurround then
        [.write (Utf8.encode (' ' :: marks level))]
      else []

end Heading

/-- The characters of a thematic break. -/
def thematicRule (scene : Scene) (id : NodeId) : List Char :=
  let style := scene.config.breakStyle
  let style := if style = .dashed && scene.document.followsText id then .starred else style
  List.replicate scene.config.effectiveBreakLength style.char

section Blocks

variable {scene : Scene} {id : NodeId} {state : RenderState}

/-- The calls that set a block off from the one before it. -/
def separation (scene : Scene) (id : NodeId) : List WriterCall :=
  if (scene.node id).previous.isSome && (scene.node id).blankBefore then [.endLine] else []

/-- What goes before a block, when it is entered. -/
theorem performs_separator_enter :
    Performs (Render.separator scene id .enter) state (separation scene id)
      .proceed state :=
  .ite Performs.endLine.answer (.pure _)

/-- A block ends its last line. -/
theorem performs_separator_exit :
    Performs (Render.separator scene id .exit) state [.flushLine] .proceed state :=
  Performs.flushLine.answer

/-- A block function writes behind the separation. -/
theorem performs_asBlock_enter {render : RenderFn} {script : List WriterCall}
    {after : RenderState}
    (hrender : Performs (render scene id .enter) state script .proceed after) :
    Performs (asBlock render scene id .enter) state (separation scene id ++ script)
      .proceed after := by
  rw [← List.append_nil script]
  exact performs_separator_enter.bind (hrender.bind (.pure _))

/-- A block function may leave a line open, which is ended. -/
theorem performs_asBlock_exit {render : RenderFn} {script : List WriterCall}
    {after : RenderState}
    (hrender : Performs (render scene id .exit) state script .proceed after) :
    Performs (asBlock render scene id .exit) state (script ++ [.flushLine])
      .proceed after :=
  hrender.bind (performs_separator_exit.bind (.pure _))

/-- A node without a function of its own asks for nothing. -/
theorem performs_transparent {phase : Phase} :
    Performs (Render.transparent scene id phase) state [] .proceed state :=
  .pure _

/-- A quote puts its mark in front of all lines inside of it. -/
theorem performs_blockquote_enter :
    Performs (Render.blockquote scene id .enter) state
      [.pushLead (Utf8.encode ['>', ' ']) .all] .proceed state :=
  (Performs.pushLead _ _).answer

/-- The mark of a quote is taken away. -/
theorem performs_blockquote_exit :
    Performs (Render.blockquote scene id .exit) state [.popLead] .proceed state :=
  Performs.popLead.answer

/-- A heading writes marks or a line below, as its style has it. -/
theorem performs_heading {level : Nat} {phase : Phase}
    (helement : (scene.node id).element = .heading level) :
    Performs (Render.heading scene id phase) state (Heading.script scene id level phase)
      .proceed state := by
  simp only [Render.heading, helement]
  cases phase with
  | enter =>
      have hatx : Performs (Render.atxHeading scene id level .enter) state
          (.write (Utf8.encode (Heading.marks level)) ::
            if scene.document.hasChildren id then [.write (Utf8.encode [' '])] else [])
          () state :=
        (Performs.putText _).bind (.ite (.putText _) (.pure _))
      exact .ite (Performs.pure _) hatx.answer
  | exit =>
      have hatx : Performs (Render.atxHeading scene id level .exit) state
          (if scene.config.headingStyle = .atxSurround then
            [.write (Utf8.encode (' ' :: Heading.marks level))] else []) () state :=
        .ite (.putText _) (.pure _)
      have hsetext : Performs (Render.setextHeading scene id level .exit) state
          [.endLine, .write (Utf8.encode (Heading.underline scene id level))] () state :=
        Performs.endLine.bind (.putText _)
      exact .ite hsetext.answer hatx.answer

/-- A thematic break writes its rule. -/
theorem performs_thematicBreak_enter :
    Performs (Render.thematicBreak scene id .enter) state
      [.write (Utf8.encode (thematicRule scene id))] .proceed state :=
  (Performs.putText (thematicRule scene id)).answer

/-- Nothing is left to do behind the rule. -/
theorem performs_thematicBreak_exit :
    Performs (Render.thematicBreak scene id .exit) state [] .proceed state :=
  .pure _

/-- Content lines are written one by one. -/
theorem performs_contentLines :
    Performs (Render.contentLines scene id) state
      (contentScript scene.source (scene.node id).lines) ⟨⟩ state :=
  Performs.forM fun line _ => (Performs.put (line.bytes scene.source)).bind .flushLine

/-- An indented code block puts the indent in front of its content. -/
theorem performs_codeBlock_enter :
    Performs (Render.codeBlock scene id .enter) state
      (.pushLead (Utf8.ofString scene.config.indentStyle.unit) .all ::
        contentScript scene.source (scene.node id).lines) .proceed state :=
  (Performs.pushLead _ _).bind performs_contentLines.answer

/-- The indent is taken away. -/
theorem performs_codeBlock_exit :
    Performs (Render.codeBlock scene id .exit) state [.popLead] .proceed state :=
  Performs.popLead.answer

/-- The fence of a code block. -/
def fenceOf (scene : Scene) (id : NodeId) (info : Option Value) : List Char :=
  CodeFence.fence ((info.map (·.bytes scene.source)).getD [])
    ((scene.node id).lines.map (·.bytes scene.source))

/-- A fenced code block writes its fence, the info string and the content. -/
theorem performs_fencedCodeBlock_enter {info : Option Value}
    (helement : (scene.node id).element = .fencedCodeBlock info) :
    Performs (Render.fencedCodeBlock scene id .enter) state
      (.write (Utf8.encode (fenceOf scene id info)) ::
        .write ((info.map (·.bytes scene.source)).getD []) :: .flushLine ::
        contentScript scene.source (scene.node id).lines) .proceed state := by
  simp only [Render.fencedCodeBlock, helement]
  exact (Performs.putText _).bind ((Performs.put _).bind
    (Performs.flushLine.bind performs_contentLines.answer))

/-- The closing fence is the opening one without the info string. -/
theorem performs_fencedCodeBlock_exit {info : Option Value}
    (helement : (scene.node id).element = .fencedCodeBlock info) :
    Performs (Render.fencedCodeBlock scene id .exit) state
      [.write (Utf8.encode (fenceOf scene id info))] .proceed state := by
  simp only [Render.fencedCodeBlock, helement]
  exact (Performs.putText _).answer

/-- An HTML block writes its content. -/
theorem performs_htmlBlock_enter :
    Performs (Render.htmlBlock scene id .enter) state
      (contentScript scene.source (scene.node id).lines) .proceed state :=
  performs_contentLines.answer

/-- A closing line that is kept apart is written like content. -/
theorem performs_htmlBlock_exit {closure : Option Value}
    (helement : (scene.node id).element = .htmlBlock closure) :
    Performs (Render.htmlBlock scene id .exit) state
      (contentScript scene.source closure.toList) .proceed state := by
  simp only [Render.htmlBlock, helement]
  cases closure with
  | none => exact Performs.pure _
  | some line => exact (Performs.put _).bind Performs.flushLine.answer

/-- A list is opened with its start for the next number. -/
theorem performs_list_enter {marker : UInt8} {ordered : Bool} {start : Nat}
    (helement : (scene.node id).element = .list marker ordered start) :
    Performs (Render.list scene id .enter) state [] .proceed
      { state with lists := ⟨marker, ordered, start⟩ :: state.lists } := by
  simp only [Render.list, helement]
  exact (Performs.pushList _).answer

/-- Leaving a list closes it. -/
theorem performs_list_exit {frame : ListFrame} {lists : List ListFrame}
    (hlists : state.lists = frame :: lists) :
    Performs (Render.list scene id .exit) state [] .proceed { state with lists } :=
  (Performs.popList hlists).answer.answer

/-- In a list, the marker of an item counts on. -/
theorem performs_itemMarker {frame : ListFrame} {lists : List ListFrame}
    (hlists : state.lists = frame :: lists) :
    Performs Render.itemMarker state [] (ListItem.nextMarker frame).1
      { state with lists := (ListItem.nextMarker frame).2 :: lists } := by
  intro writer written hrun
  cases hrun
  rw [Render.itemMarker, get_bind_apply]
  simp only [hlists]
  rfl

/-- Outside of a list, an item gets a dash and a warning. -/
theorem performs_itemMarker_outside (hlists : state.lists = []) :
    Performs Render.itemMarker state [] ['-']
      { state with warnings := state.warnings.push .itemOutsideList } := by
  intro writer written hrun
  cases hrun
  rw [Render.itemMarker, get_bind_apply]
  simp only [hlists]
  rfl

/-- The leads that an item puts in front of its lines. -/
def itemLeads (config : Config) (marker : List Char) : List WriterCall :=
  [.pushLead (ListItem.firstLead marker) (.between 0 0),
    .pushLead (ListItem.laterLead config (ListItem.firstLead marker)) (.starting 1)]

/-- An item puts its marker in front of one line and an indent in front of the others. -/
theorem performs_listItem_enter {marker : List Char} {after : RenderState}
    (hmarker : Performs Render.itemMarker state [] marker after) :
    Performs (Render.listItem scene id .enter) state (itemLeads scene.config marker)
      .proceed after :=
  hmarker.bind ((Performs.pushLead _ _).bind (Performs.pushLead _ _).answer)

/-- An item without children ends a line for its marker. Both leads are taken away. -/
theorem performs_listItem_exit :
    Performs (Render.listItem scene id .exit) state
      ((if !scene.document.hasChildren id then [.endLine] else []) ++ [.popLead, .popLead])
      .proceed state := by
  cases hchildren : scene.document.hasChildren id with
  | false =>
      simp only [Render.listItem, hchildren]
      exact Performs.endLine.bind (Performs.popLead.bind Performs.popLead.answer)
  | true =>
      simp only [Render.listItem, hchildren]
      exact Performs.popLead.bind Performs.popLead.answer

end Blocks

section Inlines

variable {scene : Scene} {id : NodeId} {state : RenderState}

/-- The bytes of a text, without newlines inside a code span. -/
def textBytes (codeSpan : Option CodeSpanStyle) (bytes : Bytes) : Bytes :=
  if codeSpan.isSome then Render.joinedLines bytes else bytes

/-- The calls that write the line break after a text. -/
def breakScript (breaks : LineBreaks) : List WriterCall :=
  if breaks.hard then [.write (Utf8.encode ['\\']), .endLine]
  else if breaks.soft then [.endLine]
  else []

/-- A text writes its bytes and its line break. -/
theorem performs_text_enter {value : Value} {breaks : LineBreaks}
    (helement : (scene.node id).element = .text value breaks) :
    Performs (Render.text scene id .enter) state
      (.write (textBytes state.codeSpan (value.bytes scene.source)) :: breakScript breaks)
      .proceed state := by
  simp only [Render.text, helement]
  refine .get_bind (fun writer => rfl) ((Performs.put _).bind ?_)
  refine .ite ?_ (.ite ?_ (.pure _))
  · exact (Performs.putText _).bind Performs.endLine.answer
  · exact Performs.endLine.answer

/-- Nothing is left to do behind a text. -/
theorem performs_text_exit :
    Performs (Render.text scene id .exit) state [] .proceed state :=
  .pure _

/-- Emphasis has the same marks at both ends. -/
theorem performs_emphasis {level : Nat} {phase : Phase}
    (helement : (scene.node id).element = .emphasis level) :
    Performs (Render.emphasis scene id phase) state
      [.write (Utf8.encode (List.replicate level '*'))] .proceed state := by
  simp only [Render.emphasis, helement]
  exact (Performs.putText _).answer

/-- How the code span at a node is set off. -/
def spanStyle (scene : Scene) (id : NodeId) : CodeSpanStyle :=
  CodeSpan.style (Utf8.decodeLossy (CodeSpan.content scene id))

/-- A code span is opened with as many backticks as its content asks for. -/
theorem performs_codeSpan_enter :
    Performs (Render.codeSpan scene id .enter) state
      [.write (Utf8.encode (CodeSpan.opening (spanStyle scene id)))] .proceed
      { state with codeSpan := some (spanStyle scene id) } :=
  (Performs.setCodeSpan _).bind (Performs.putText _).answer

/-- The open code span is closed with as many backticks. -/
theorem performs_codeSpan_exit :
    Performs (Render.codeSpan scene id .exit) state
      [.write (Utf8.encode (CodeSpan.closing (state.codeSpan.getD {})))] .proceed
      { state with codeSpan := none } :=
  .get_bind (fun _ => rfl) ((Performs.putText _).bind (Performs.setCodeSpan _).answer)

/-- The text of a link stands behind a bracket. -/
theorem performs_link_enter {destination title : String}
    (helement : (scene.node id).element = .link destination title) :
    Performs (Render.link scene id .enter) state [.write (Utf8.encode ['['])]
      .proceed state := by
  simp only [Render.link, helement]
  exact (Performs.putText _).answer

/-- Behind its text stands where a link leads to. -/
theorem performs_link_exit {destination title : String}
    (helement : (scene.node id).element = .link destination title) :
    Performs (Render.link scene id .exit) state
      [.write (Utf8.encode (LinkTarget.tail destination title))] .proceed state := by
  simp only [Render.link, helement]
  exact (Performs.putText _).answer

/-- The text of an image stands behind an exclamation mark and a bracket. -/
theorem performs_image_enter {destination title : String}
    (helement : (scene.node id).element = .image destination title) :
    Performs (Render.image scene id .enter) state [.write (Utf8.encode ['!', '['])]
      .proceed state := by
  simp only [Render.image, helement]
  exact (Performs.putText _).answer

/-- Behind its text stands where an image is. -/
theorem performs_image_exit {destination title : String}
    (helement : (scene.node id).element = .image destination title) :
    Performs (Render.image scene id .exit) state
      [.write (Utf8.encode (LinkTarget.tail destination title))] .proceed state := by
  simp only [Render.image, helement]
  exact (Performs.putText _).answer

/-- An address stands behind an angle bracket. -/
theorem performs_autoLink_enter {url : Value}
    (helement : (scene.node id).element = .autoLink url) :
    Performs (Render.autoLink scene id .enter) state
      [.write (Utf8.encode ['<']), .write (url.bytes scene.source)] .proceed state := by
  simp only [Render.autoLink, helement]
  exact (Performs.putText _).bind (Performs.put _).answer

/-- An angle bracket closes an address. -/
theorem performs_autoLink_exit :
    Performs (Render.autoLink scene id .exit) state [.write (Utf8.encode ['>'])]
      .proceed state :=
  (Performs.putText _).answer

/-- Raw HTML is written segment by segment. -/
theorem performs_rawHtml_enter {segments : List Value}
    (helement : (scene.node id).element = .rawHtml segments) :
    Performs (Render.rawHtml scene id .enter) state
      (segments.flatMap fun value => [.write (value.bytes scene.source)])
      .proceed state := by
  simp only [Render.rawHtml, helement]
  exact (Performs.forM fun value _ => .put (value.bytes scene.source)).answer

/-- Nothing is left to do behind raw HTML. -/
theorem performs_rawHtml_exit :
    Performs (Render.rawHtml scene id .exit) state [] .proceed state :=
  .pure _

/-- Strikethrough has two tildes at both ends. -/
theorem performs_strikethrough {phase : Phase} :
    Performs (Render.strikethrough scene id phase) state
      [.write (Utf8.encode ['~', '~'])] .proceed state :=
  (Performs.putText _).answer

end Inlines

end MarkdownFormat
