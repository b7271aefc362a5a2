/-
# Paired visits

Entering a node may put up leads and open a list; leaving it takes them down again.
`Paired` says this of the two visits to a node, whatever comes between them as long as
it keeps the same rule. Every visit with the built-in functions is paired, so the
script of a whole walk leaves as many leads as it found, on every document: rendering
never takes away a lead or a list that is not there, and no code span stays open.
-/

import MarkdownFormat.Proofs.Render.Walk

namespace MarkdownFormat

namespace WriterCall

/-- Calls that are level one by one are level together. -/
theorem level_of_forall {script : List WriterCall}
    (hscript : ∀ call ∈ script, Level [call]) : Level script := by
  induction script with
  | nil => exact level_nil
  | cons call script ih =>
      have hrest := ih fun other hother => hscript other (List.mem_cons_of_mem _ hother)
      exact (hscript call List.mem_cons_self).append hrest

/-- A write does not touch the leads. -/
theorem level_write (bytes : Bytes) : Level [.write bytes] := fun _ => rfl

/-- Nor does ending a line. -/
theorem level_endLine : Level [.endLine] := fun _ => rfl

/-- Nor does flushing one. -/
theorem level_flushLine : Level [.flushLine] := fun _ => rfl

/-- Which of two level scripts is taken may depend on a condition. -/
theorem Level.ite {condition : Prop} [Decidable condition] {first second : List WriterCall}
    (hfirst : Level first) (hsecond : Level second) :
    Level (if condition then first else second) := by
  split
  · exact hfirst
  · exact hsecond

/-- A level call may go before a level script. -/
theorem Level.cons {call : WriterCall} {script : List WriterCall} (hcall : Level [call])
    (hscript : Level script) : Level (call :: script) :=
  hcall.append hscript

end WriterCall

open WriterCall

/-- Content lines are written without leads. -/
theorem level_contentScript (source : Bytes) (lines : List Value) :
    Level (contentScript source lines) := by
  apply level_of_forall
  intro call hcall
  obtain ⟨line, -, hline⟩ := List.mem_flatMap.mp hcall
  simp only [List.mem_cons, List.not_mem_nil, or_false] at hline
  rcases hline with rfl | rfl
  · exact level_write _
  · exact level_flushLine

/-- So is a separation. -/
theorem level_separation (scene : Scene) (id : NodeId) : Level (separation scene id) :=
  .ite level_endLine level_nil

/-- So are the marks of a heading. -/
theorem Heading.level_script (scene : Scene) (id : NodeId) (level : Nat) (phase : Phase) :
    Level (Heading.script scene id level phase) := by
  cases phase with
  | enter => exact .ite level_nil ((level_write _).cons (.ite (level_write _) level_nil))
  | exit =>
      exact .ite (level_endLine.cons (level_write _)) (.ite (level_write _) level_nil)

/-- So are segments of raw HTML. -/
theorem level_segments (source : Bytes) (segments : List Value) :
    Level (segments.flatMap fun value => [.write (value.bytes source)]) := by
  apply level_of_forall
  intro call hcall
  obtain ⟨value, -, hvalue⟩ := List.mem_flatMap.mp hcall
  rw [List.mem_singleton] at hvalue
  subst hvalue
  exact level_write _

/-- So is a line break. -/
theorem level_breakScript (breaks : LineBreaks) : Level (breakScript breaks) :=
  .ite ((level_write _).cons level_endLine) (.ite level_endLine level_nil)

/-- As many lists are open as before, and no other code span. Any code span ends the
open one. -/
structure RenderState.Resumes (before after : RenderState) : Prop where
  length_lists : after.lists.length = before.lists.length
  codeSpan : after.codeSpan = before.codeSpan ∨ after.codeSpan = none

/-- Where nothing happens, the lists and the code span stay. -/
theorem RenderState.Resumes.refl (state : RenderState) : state.Resumes state :=
  ⟨rfl, .inl rfl⟩

/-- What resumes may resume again. -/
theorem RenderState.Resumes.trans {before middle after : RenderState}
    (hfirst : before.Resumes middle) (hsecond : middle.Resumes after) : before.Resumes after where
  length_lists := hsecond.length_lists.trans hfirst.length_lists
  codeSpan := by
    rcases hsecond.codeSpan with hsame | hnone
    · rw [hsame]
      exact hfirst.codeSpan
    · exact .inr hnone

/-- Leaving takes down the leads and closes the lists that entering put up, provided
that as many lists are open in between. -/
def Paired (visit : Phase → RenderM WalkStatus) : Prop :=
  ∀ before, ∃ opening inside leads,
    Performs (visit .enter) before opening .proceed inside ∧
    (∀ depth, depthAfterAll depth opening = some (depth + leads)) ∧
    ∀ inner : RenderState, inside.Resumes inner →
      ∃ closing after, Performs (visit .exit) inner closing .proceed after ∧
        (∀ depth, depthAfterAll (depth + leads) closing = some depth) ∧
        before.Resumes after

namespace Paired

/-- Visits that leave leads, lists and code spans alone are paired. -/
theorem of_level {visit : Phase → RenderM WalkStatus}
    (hvisit : ∀ phase before, ∃ script after,
      Performs (visit phase) before script .proceed after ∧ Level script ∧
        after.lists = before.lists ∧ after.codeSpan = before.codeSpan) : Paired visit := by
  have hresumes : ∀ {before after : RenderState},
      after.lists = before.lists ∧ after.codeSpan = before.codeSpan → before.Resumes after :=
    fun hsame => ⟨congrArg List.length hsame.1, .inl hsame.2⟩
  intro before
  obtain ⟨opening, inside, henter, hopening, hinside⟩ := hvisit .enter before
  refine ⟨opening, inside, 0, henter, hopening, ?_⟩
  intro inner hinner
  obtain ⟨closing, after, hexit, hclosing, hafter⟩ := hvisit .exit inner
  exact ⟨closing, after, hexit, hclosing,
    ((hresumes hinside).trans hinner).trans (hresumes hafter)⟩

/-- A function stays paired within what all blocks have in common. -/
theorem asBlock {render : RenderFn} {scene : Scene} {id : NodeId}
    (hpaired : Paired (render scene id)) : Paired (asBlock render scene id) := by
  intro before
  obtain ⟨opening, inside, leads, henter, hopening, hleave⟩ := hpaired before
  refine ⟨_, inside, leads, performs_asBlock_enter henter, ?_, ?_⟩
  · intro depth
    rw [depthAfterAll_append, level_separation scene id depth, Option.bind_some,
      hopening depth]
  · intro inner hinner
    obtain ⟨closing, after, hexit, hclosing, hafter⟩ := hleave inner hinner
    refine ⟨_, after, performs_asBlock_exit hexit, ?_, hafter⟩
    intro depth
    rw [depthAfterAll_append, hclosing depth, Option.bind_some, level_flushLine depth]

/-- A separator puts nothing up. -/
theorem separator (scene : Scene) (id : NodeId) : Paired (Render.separator scene id) :=
  of_level fun phase before => by
    cases phase with
    | enter => exact ⟨_, _, performs_separator_enter, level_separation scene id, rfl, rfl⟩
    | exit => exact ⟨_, _, performs_separator_exit, level_flushLine, rfl, rfl⟩

/-- A quote takes its mark down. -/
theorem blockquote (scene : Scene) (id : NodeId) : Paired (Render.blockquote scene id) :=
  fun before => ⟨_, before, 1, performs_blockquote_enter, fun _ => rfl, fun _ hinner =>
    ⟨_, _, performs_blockquote_exit, fun _ => rfl, hinner⟩⟩

/-- An indented code block takes its indent down. -/
theorem codeBlock (scene : Scene) (id : NodeId) : Paired (Render.codeBlock scene id) := by
  intro before
  refine ⟨_, before, 1, performs_codeBlock_enter, ?_, ?_⟩
  · intro depth
    exact level_contentScript _ _ (depth + 1)
  · intro inner hinner
    exact ⟨_, _, performs_codeBlock_exit, fun _ => rfl, hinner⟩

/-- A list that was opened is still there when the node is left. -/
theorem list {scene : Scene} {id : NodeId} {marker : UInt8} {ordered : Bool} {start : Nat}
    (helement : (scene.node id).element = .list marker ordered start) :
    Paired (Render.list scene id) := by
  intro before
  refine ⟨[], _, 0, performs_list_enter helement, fun _ => rfl, ?_⟩
  intro inner hinner
  have hlength := hinner.length_lists
  cases hlists : inner.lists with
  | nil => simp [hlists] at hlength
  | cons frame lists =>
      refine ⟨_, _, performs_list_exit hlists, fun _ => rfl, ?_, hinner.codeSpan⟩
      simpa [hlists] using hlength

/-- An item counts in its list, if it is in one, and puts up two leads. -/
theorem listItem (scene : Scene) (id : NodeId) : Paired (Render.listItem scene id) := by
  intro before
  have hmarker : ∃ marker inside, Performs Render.itemMarker before [] marker inside ∧
      before.Resumes inside := by
    cases hlists : before.lists with
    | nil => exact ⟨_, _, performs_itemMarker_outside hlists, rfl, .inl rfl⟩
    | cons frame lists =>
        exact ⟨_, _, performs_itemMarker hlists, by simp [hlists], .inl rfl⟩
  obtain ⟨marker, inside, hmarker, hinside⟩ := hmarker
  refine ⟨_, inside, 2, performs_listItem_enter hmarker, fun _ => rfl, ?_⟩
  intro inner hinner
  refine ⟨_, inner, performs_listItem_exit, ?_, hinside.trans hinner⟩
  intro depth
  rw [depthAfterAll_append, Level.ite level_endLine level_nil (depth + 2)]
  rfl

/-- A code span is closed when it is left, and with it the one around it. -/
theorem codeSpan (scene : Scene) (id : NodeId) : Paired (Render.codeSpan scene id) :=
  fun _ => ⟨_, _, 0, performs_codeSpan_enter, level_write _, fun _ hinner =>
    ⟨_, _, performs_codeSpan_exit, level_write _, hinner.length_lists, .inr rfl⟩⟩

end Paired

/-- Whatever a node is, its function is paired. -/
theorem paired_builtIn {scene : Scene} {id : NodeId} {render : RenderFn}
    (hrender : Renderer.builtIn (scene.node id).element.kind = some render) :
    Paired (render scene id) := by
  cases helement : (scene.node id).element <;>
    simp only [helement, Element.kind, Renderer.builtIn, Option.some.injEq] at hrender <;>
    try subst hrender
  case document | paragraph | textBlock => exact .separator scene id
  case heading level =>
      exact Paired.asBlock (.of_level fun phase before =>
        ⟨_, _, performs_heading helement, Heading.level_script scene id level phase, rfl, rfl⟩)
  case blockquote => exact .asBlock (.blockquote scene id)
  case codeBlock => exact .asBlock (.codeBlock scene id)
  case fencedCodeBlock info =>
      apply Paired.asBlock
      apply Paired.of_level
      intro phase before
      cases phase with
      | enter =>
          refine ⟨_, _, performs_fencedCodeBlock_enter helement, ?_, rfl, rfl⟩
          exact (level_write _).cons
            ((level_write _).cons (level_flushLine.cons (level_contentScript _ _)))
      | exit => exact ⟨_, _, performs_fencedCodeBlock_exit helement, level_write _, rfl, rfl⟩
  case htmlBlock closure =>
      apply Paired.asBlock
      apply Paired.of_level
      intro phase before
      cases phase with
      | enter => exact ⟨_, _, performs_htmlBlock_enter, level_contentScript _ _, rfl, rfl⟩
      | exit => exact ⟨_, _, performs_htmlBlock_exit helement, level_contentScript _ _, rfl, rfl⟩
  case list marker ordered start => exact .asBlock (.list helement)
  case listItem => exact .asBlock (.listItem scene id)
  case thematicBreak =>
      apply Paired.asBlock
      apply Paired.of_level
      intro phase before
      cases phase with
      | enter => exact ⟨_, _, performs_thematicBreak_enter, level_write _, rfl, rfl⟩
      | exit => exact ⟨_, _, performs_thematicBreak_exit, level_nil, rfl, rfl⟩
  case text value breaks =>
      apply Paired.of_level
      intro phase before
      cases phase with
      | enter =>
          refine ⟨_, _, performs_text_enter helement, ?_, rfl, rfl⟩
          exact (level_write _).cons (level_breakScript breaks)
      | exit => exact ⟨_, _, performs_text_exit, level_nil, rfl, rfl⟩
  case emphasis level =>
      exact .of_level fun phase before =>
        ⟨_, _, performs_emphasis helement, level_write _, rfl, rfl⟩
  case codeSpan => exact .codeSpan scene id
  case link destination title =>
      apply Paired.of_level
      intro phase before
      cases phase with
      | enter => exact ⟨_, _, performs_link_enter helement, level_write _, rfl, rfl⟩
      | exit => exact ⟨_, _, performs_link_exit helement, level_write _, rfl, rfl⟩
  case image destination title =>
      apply Paired.of_level
      intro phase before
      cases phase with
      | enter => exact ⟨_, _, performs_image_enter helement, level_write _, rfl, rfl⟩
      | exit => exact ⟨_, _, performs_image_exit helement, level_write _, rfl, rfl⟩
  case autoLink url =>
      apply Paired.of_level
      intro phase before
      cases phase with
      | enter =>
          refine ⟨_, _, performs_autoLink_enter helement, ?_, rfl, rfl⟩
          exact (level_write _).cons (level_write _)
      | exit => exact ⟨_, _, performs_autoLink_exit, level_write _, rfl, rfl⟩
  case rawHtml segments =>
      apply Paired.of_level
      intro phase before
      cases phase with
      | enter =>
          exact ⟨_, _, performs_rawHtml_enter helement, level_segments _ segments, rfl, rfl⟩
      | exit => exact ⟨_, _, performs_rawHtml_exit, level_nil, rfl, rfl⟩
  case custom name block =>
      split at hrender
      · cases hrender
        exact .asBlock (.of_level fun phase before =>
          ⟨_, _, performs_transparent, level_nil, rfl, rfl⟩)
      · cases hrender

namespace Renderer

/-- Registering the function for struck-out text changes nothing for other kinds. -/
theorem functions_forMarkdown (config : Config) (strikethrough : Bool) (kind : Kind) :
    (forMarkdown config strikethrough).functions kind =
      if strikethrough = true ∧ kind = .strikethrough then some Render.strikethrough
      else builtIn kind := by
  cases strikethrough with
  | false => rfl
  | true =>
      have hblock : Kind.strikethrough.isBlock = false := rfl
      simp [forMarkdown, addOptions, extensionsInOrder, prioritised?, install,
        Extension.strikethrough, register, standard, hblock]

/-- Nor does it change the configuration. -/
theorem config_forMarkdown (config : Config) (strikethrough : Bool) :
    (forMarkdown config strikethrough).config = config := by
  cases strikethrough with
  | false => rfl
  | true =>
      simp [forMarkdown, addOptions, extensionsInOrder, prioritised?, install, configure,
        Extension.strikethrough, register, standard]

/-- Blocks of a kind with a built-in function are rendered with it. -/
theorem dispatch_forMarkdown {config : Config} {strikethrough : Bool} {scene : Scene} {id : NodeId}
    {kind : Kind} {render : RenderFn} (hkind : scene.document.kind id = kind)
    (hblock : kind.isBlock) (hrender : builtIn kind = some render) (phase : Phase) :
    (forMarkdown config strikethrough).dispatch scene id phase = render scene id phase := by
  have hfunction : (forMarkdown config strikethrough).functions (scene.document.kind id) =
      some render := by
    rw [hkind, functions_forMarkdown, if_neg, hrender]
    rintro ⟨-, rfl⟩
    cases hblock
  simp only [dispatch, hfunction]

/-- Every visit with the built-in functions is paired, also that of a node without
a function. -/
theorem paired_dispatch (config : Config) (strikethrough : Bool) (scene : Scene)
    (id : NodeId) :
    Paired ((forMarkdown config strikethrough).dispatch scene id) := by
  cases hfunction :
      (forMarkdown config strikethrough).functions (scene.document.kind id) with
  | none =>
      apply Paired.of_level
      intro phase before
      simp only [dispatch, hfunction]
      cases phase with
      | enter => exact ⟨_, _, (Performs.warn _).answer, level_nil, rfl, rfl⟩
      | exit => exact ⟨_, _, .pure _, level_nil, rfl, rfl⟩
  | some render =>
      have hdispatch : (forMarkdown config strikethrough).dispatch scene id =
          render scene id := by
        funext phase
        simp only [dispatch, hfunction]
      rw [hdispatch]
      rw [functions_forMarkdown] at hfunction
      split at hfunction
      · cases hfunction
        exact .of_level fun phase before => ⟨_, _, performs_strikethrough, level_write _, rfl, rfl⟩
      · exact paired_builtIn hfunction

variable {renderer : Renderer} {scene : Scene}

/-- Nodes that can be walked one by one can be walked in a row. -/
theorem exists_checked_walkEach {walkOne : NodeId → EStateM RenderFault RenderState WalkStatus}
    (hwalk : ∀ id before, ∃ script after, Checked (walkOne id) before script after ∧
      Level script ∧ before.Resumes after)
    (ids : List NodeId) (before : RenderState) :
    ∃ script after, Checked (Document.walkEach walkOne ids) before script after ∧
      Level script ∧ before.Resumes after := by
  induction ids generalizing before with
  | nil => exact ⟨[], before, .pure, level_nil, .refl before⟩
  | cons id ids ih =>
      obtain ⟨first, middle, hfirst, hlevel, hmiddle⟩ := hwalk id before
      obtain ⟨rest, after, hrest, hlevels, hafter⟩ := ih middle
      exact ⟨first ++ rest, after, hfirst.bind hrest, hlevel.append hlevels,
        hmiddle.trans hafter⟩

/-- A walk with paired visits runs a script that leaves as many leads as it found. -/
theorem exists_checked_walkTo (hpaired : ∀ id, Paired (renderer.dispatch scene id))
    (depth : Nat) (id : NodeId) (before : RenderState) :
    ∃ script after,
      Checked (scene.document.walkTo (renderer.visit scene) depth id) before script after ∧
        Level script ∧ before.Resumes after := by
  induction depth generalizing id before with
  | zero => exact ⟨[], before, .pure, level_nil, .refl before⟩
  | succ depth ih =>
      obtain ⟨opening, inside, leads, henter, hopening, hleave⟩ := hpaired id before
      obtain ⟨content, inner, hcontent, hlevel, hinner⟩ :=
        exists_checked_walkEach ih (scene.document.children id) inside
      obtain ⟨closing, after, hexit, hclosing, hafter⟩ := hleave inner hinner
      refine ⟨_, after, checked_walkTo henter hcontent hexit, ?_, hafter⟩
      intro depth
      simp only [depthAfterAll_append, hopening, Option.bind_some, hlevel _, hclosing]

end Renderer

end MarkdownFormat
