/-
# What a block leaves behind

A block that is rendered on its own leaves no lead, no list, no code span and no open line
behind: what it leaves are the lines that it has delivered, which the line counter counts,
and its warnings.
-/

import MarkdownFormat.Proofs.Document.Traversal
import MarkdownFormat.Proofs.Render.FailingSink
import MarkdownFormat.Proofs.Render.Shift
import MarkdownFormat.Proofs.Writer.Dialogue

namespace MarkdownFormat

namespace LineWriter

/-- A writer that goes through keeps what is unfinished. -/
theorem buffer_deliver {writer : LineWriter} {pieces : List Bytes} {tail : Bytes}
    (hsound : (writer.deliver pieces tail).isFailed = false) :
    (writer.deliver pieces tail).buffer = tail := by
  induction pieces generalizing writer with
  | nil => rfl
  | cons piece pieces ih =>
      rw [deliver] at hsound ⊢
      split at hsound
      · exact ih hsound
      · cases hsound

/-- Unless the sink fails, nothing is left of a line that has been ended. -/
theorem buffer_flushLine {writer : LineWriter} (hsound : writer.flushLine.isFailed = false) :
    writer.flushLine.buffer = [] := by
  by_cases hempty : writer.buffer = []
  · rw [flushLine, if_pos hempty, hempty]
  · rw [flushLine, if_neg hempty, endLine, put] at hsound ⊢
    split at hsound
    · rename_i hfailed
      rw [hfailed] at hsound
      cases hsound
    · rename_i hhealthy
      rw [if_neg hhealthy, buffer_deliver hsound, splitLines_append,
        splitLines_append_newline (newline_notMem_splitLines_snd _)]
      rfl

/-- Delivering changes what a sink has received, and nothing else of it. -/
theorem sink_deliver (writer : LineWriter) (pieces : List Bytes) (tail : Bytes) :
    ∃ received, (writer.deliver pieces tail).sink = { writer.sink with received } := by
  induction pieces generalizing writer with
  | nil => exact ⟨_, rfl⟩
  | cons piece pieces ih =>
      rw [deliver, Sink.write]
      by_cases haccepts : writer.sink.accepts
      · simp only [haccepts, if_true]
        exact ih _
      · simp only [haccepts]
        exact ⟨_, rfl⟩

/-- Writing only adds to what the sink has received. -/
theorem sink_put (writer : LineWriter) (bytes : Bytes) :
    ∃ received, (writer.put bytes).sink = { writer.sink with received } := by
  rw [put]
  split
  · exact ⟨_, rfl⟩
  · exact writer.sink_deliver _ _

/-- The lines of a writer are counted, and its sink is one that accepts everything. -/
structure CountsFreely (writer : LineWriter) : Prop where
  counts : writer.Counts
  sink_eq : writer.sink = { received := writer.sink.received }

/-- Lines are counted when they are delivered. -/
theorem CountsFreely.put {writer : LineWriter} (hwriter : writer.CountsFreely) (bytes : Bytes) :
    (writer.put bytes).CountsFreely := by
  refine ⟨hwriter.counts.put bytes, ?_⟩
  obtain ⟨received, hreceived⟩ := writer.sink_put bytes
  rw [hreceived, hwriter.sink_eq]

/-- So they are whatever is done to the writer. -/
theorem kept_countsFreely : Kept (fun _ => True) CountsFreely where
  put hwriter _ := hwriter.put _
  endLine hwriter := hwriter.put [newline]
  pushLead _ hwriter _ := ⟨hwriter.counts, hwriter.sink_eq⟩
  popLead {writer next} hwriter hpop := by
    rw [popLead?] at hpop
    split at hpop <;> cases hpop
    exact ⟨hwriter.counts, hwriter.sink_eq⟩
  check {writer} hwriter := by
    rw [check]
    split
    · exact hwriter
    · exact ⟨hwriter.counts, hwriter.sink_eq⟩

end LineWriter

namespace Renderer

/-- Only a sound writer passes a check, and the check leaves it as it is. -/
theorem eq_of_checkSink {state last : RenderState} {answer : Unit}
    (hcheck : checkSink state = .ok answer last) : state.writer.health = .sound ∧ last = state := by
  cases hhealth : state.writer.health with
  | sound =>
      rw [checkSink_of_sound hhealth] at hcheck
      cases hcheck
      exact ⟨rfl, rfl⟩
  | failed fault =>
      rw [checkSink_of_health hhealth] at hcheck
      cases hcheck

/-- A visit that goes through leaves what its function leaves, with a sound writer. -/
theorem visit_eq_ok {renderer : Renderer} {scene : Scene} {id : NodeId} {phase : Phase}
    {state last : RenderState} {status : WalkStatus}
    (hvisit : renderer.visit scene id phase state = .ok status last) :
    renderer.dispatch scene id phase state = .ok status last ∧ last.writer.health = .sound := by
  have hbind : renderer.visit scene id phase state =
      EStateM.bind ((renderer.dispatch scene id phase).adaptExcept .misuse)
        (fun status => EStateM.bind checkSink fun _ => EStateM.pure status) state := rfl
  rw [hbind, EStateM.bind, EStateM.adaptExcept] at hvisit
  cases hdispatch : renderer.dispatch scene id phase state with
  | error misuse stopped =>
      rw [hdispatch] at hvisit
      cases hvisit
  | ok answer left =>
      rw [hdispatch] at hvisit
      simp only [EStateM.bind] at hvisit
      cases hcheck : checkSink left with
      | error fault stopped =>
          rw [hcheck] at hvisit
          cases hvisit
      | ok answer checked =>
          rw [hcheck] at hvisit
          cases hvisit
          obtain ⟨hsound, rfl⟩ := eq_of_checkSink hcheck
          exact ⟨rfl, hsound⟩

/-- A block that shows only its children has nothing but what all blocks have in common. -/
theorem separator_eq_asBlock : Render.separator = asBlock Render.transparent := by
  funext scene id phase
  cases phase with
  | enter =>
      simp only [asBlock, chain, runAll, Render.separator, Render.transparent]
      split <;> rfl
  | exit => rfl

/-- Where a block has been left and the sink has not failed, no line is open. -/
theorem buffer_of_visit {renderer : Renderer} {scene : Scene} {id : NodeId} {own : RenderFn}
    (hfunction : renderer.functions (scene.document.kind id) = some (asBlock own))
    {state last : RenderState} {status : WalkStatus}
    (hvisit : renderer.visit scene id .exit state = .ok status last) : last.writer.buffer = [] := by
  obtain ⟨hdispatch, hsound⟩ := visit_eq_ok hvisit
  have hblock : renderer.dispatch scene id .exit state =
      EStateM.bind (own scene id .exit) (fun _ => Render.separator scene id .exit) state := by
    simp only [dispatch, hfunction]
    rfl
  rw [hblock, EStateM.bind] at hdispatch
  cases hown : own scene id .exit state with
  | error misuse stopped =>
      rw [hown] at hdispatch
      cases hdispatch
  | ok answer middle =>
      rw [hown] at hdispatch
      cases hdispatch
      have hhealth : middle.writer.flushLine.health = .sound := hsound
      exact LineWriter.buffer_flushLine (by simp [LineWriter.isFailed, hhealth])

/-- The built-in function of a block kind does what all blocks have in common. -/
theorem builtIn_of_isBlock {kind : Kind} (hblock : kind.isBlock) {render : RenderFn}
    (hrender : builtIn kind = some render) : ∃ own, render = asBlock own := by
  cases kind with
  | document | paragraph | textBlock =>
      rw [← Option.some.inj hrender]
      exact ⟨_, separator_eq_asBlock⟩
  | heading | blockquote | codeBlock | fencedCodeBlock | htmlBlock | list | listItem
  | thematicBreak => exact ⟨_, (Option.some.inj hrender).symm⟩
  | text | emphasis | codeSpan | link | image | autoLink | rawHtml => cases hblock
  | custom name block =>
      rw [builtIn] at hrender
      split at hrender <;> cases hrender
      exact ⟨_, rfl⟩

section Block

variable {config : Config} {strikethrough : Bool} {scene : Scene} {id : NodeId}

/-- Blocks of a kind with a function are rendered as blocks. -/
theorem function_of_isBlock {kind : Kind} (hblock : kind.isBlock)
    (hrenderer : (forMarkdown config strikethrough).hasRenderer kind) :
    ∃ own, (forMarkdown config strikethrough).functions kind = some (asBlock own) := by
  obtain ⟨render, hrender⟩ := Option.isSome_iff_exists.mp hrenderer
  rw [hrender]
  rw [functions_forMarkdown] at hrender
  split at hrender
  · rename_i hkind
    rw [hkind.2] at hblock
    cases hblock
  · obtain ⟨own, rfl⟩ := builtIn_of_isBlock hblock hrender
    exact ⟨own, rfl⟩

/-- Where the action goes through, it leaves no line open. -/
def EndsLine (action : EStateM RenderFault RenderState WalkStatus) : Prop :=
  ∀ state last, action state = .ok .proceed last → last.writer.buffer = []

/-- A walk that stops does not go through. -/
theorem EndsLine.stop : EndsLine (pure .stop) := by
  intro state last hstop
  cases hstop

/-- What is done last ends the line. -/
theorem EndsLine.bind {action : EStateM RenderFault RenderState WalkStatus}
    {next : WalkStatus → EStateM RenderFault RenderState WalkStatus}
    (hnext : ∀ status, EndsLine (next status)) : EndsLine (action >>= next) := by
  intro state last hlast
  have hbind : (action >>= next) state = EStateM.bind action next state := rfl
  rw [hbind, EStateM.bind] at hlast
  cases haction : action state with
  | error fault stopped =>
      rw [haction] at hlast
      cases hlast
  | ok status middle =>
      rw [haction] at hlast
      exact hnext status middle last hlast

/-- Leaving a block ends the line. -/
theorem endsLine_leave (hblock : (scene.document.kind id).isBlock)
    (hrenderer : (forMarkdown config strikethrough).hasRenderer (scene.document.kind id)) :
    EndsLine (Document.leave ((forMarkdown config strikethrough).visit scene) id) := by
  intro state last hlast
  change EStateM.bind ((forMarkdown config strikethrough).visit scene id .exit) _ state = _
    at hlast
  rw [EStateM.bind] at hlast
  cases hvisit : (forMarkdown config strikethrough).visit scene id .exit state with
  | error fault stopped =>
      rw [hvisit] at hlast
      cases hlast
  | ok status left =>
      rw [hvisit] at hlast
      obtain ⟨own, hfunction⟩ := function_of_isBlock hblock hrenderer
      have hbuffer := buffer_of_visit hfunction hvisit
      cases status <;> cases hlast <;> exact hbuffer

/-- A walk ends with leaving its first node. -/
theorem endsLine_walkTo (hblock : (scene.document.kind id).isBlock)
    (hrenderer : (forMarkdown config strikethrough).hasRenderer (scene.document.kind id))
    (depth : Nat) :
    EndsLine (scene.document.walkTo ((forMarkdown config strikethrough).visit scene) (depth + 1)
      id) := by
  rw [Document.walkTo]
  refine EndsLine.bind fun status => ?_
  cases status with
  | stop => exact .stop
  | skipChildren => exact endsLine_leave hblock hrenderer
  | proceed =>
      refine EndsLine.bind fun status => ?_
      cases status with
      | stop => exact .stop
      | proceed | skipChildren => exact endsLine_leave hblock hrenderer

/-- The state that a rendering into a sink that never fails starts in. -/
def fresh : RenderState :=
  { writer := .onto .unlimited }

/-- A block that is rendered on its own leaves lines and warnings, and nothing else. -/
theorem exists_walkTo_fresh (hblock : (scene.document.kind id).isBlock)
    (hrenderer : (forMarkdown config strikethrough).hasRenderer (scene.document.kind id))
    (depth : Nat) :
    ∃ lines warned, scene.document.walkTo ((forMarkdown config strikethrough).visit scene)
      (depth + 1) id fresh = .ok .proceed (fresh.after lines warned) := by
  obtain ⟨script, after, hchecked, hlevel, hresumes⟩ := exists_checked_walkTo
    (paired_dispatch config strikethrough scene) (depth + 1) id fresh
  have hfresh : (LineWriter.onto .unlimited).Free := LineWriter.onto_free rfl
  obtain ⟨written, -, hrun, hfree, hrestored, -⟩ := hfresh.exists_brings_of_level hlevel
  have hwalk := (hchecked _ written rfl hrun).1 hfree.sound
  refine ⟨written.sink.received, after.warnings, hwalk.trans ?_⟩
  have hkept : written.CountsFreely := by
    have hlast := @keeps_walkTo (fun _ => True) _ ⟨fun _ => trivial, fun _ _ => trivial⟩
      LineWriter.kept_countsFreely config strikethrough scene (fun _ _ _ => trivial) (depth + 1) id
      fresh ⟨rfl, rfl⟩
    have heq : scene.document.walkTo ((forMarkdown config strikethrough).visit scene) (depth + 1)
        id fresh = .ok .proceed { after with writer := written } := hwalk
    rw [heq] at hlast
    exact hlast
  have hbuffer : written.buffer = [] := endsLine_walkTo hblock hrenderer depth fresh _ hwalk
  have hleads : written.leads = [] := hrestored
  have hwriter : written = (LineWriter.onto .unlimited).after written.sink.received := by
    have hcounts : written.line = written.sink.received.size := hkept.counts
    have hsound := hfree.sound
    have hsink := hkept.sink_eq
    obtain ⟨sink, buffer, leads, line, health⟩ := written
    simp only at hcounts hsound hsink hbuffer hleads
    rw [hcounts, hsound, hbuffer, hleads, hsink]
    simp [LineWriter.after, LineWriter.onto, Sink.after, Sink.unlimited]
  have hlists : after.lists = [] := List.length_eq_zero_iff.mp hresumes.length_lists
  have hspan : after.codeSpan = none := or_self_iff.mp hresumes.codeSpan
  have hafter : ({ after with writer := written } : RenderState) =
      fresh.after written.sink.received after.warnings := by
    obtain ⟨writer, lists, codeSpan, warnings⟩ := after
    simp only at hlists hspan
    rw [hlists, hspan]
    simp [RenderState.after, fresh, ← hwriter]
  rw [hafter]

end Block

end Renderer

end MarkdownFormat
