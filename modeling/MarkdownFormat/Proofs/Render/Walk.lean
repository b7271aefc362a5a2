/-
# Rendering as one script

Rendering visits nodes one after the other and asks after each visit whether the sink
has failed. `Checked` says that this comes to running one script: if the writer is
sound after the script, so was every visit, and if the script ends with a failed
writer, rendering stopped with the fault of its sink, and the sink holds just what it
holds after the whole script. Checked actions compose like their scripts.
-/

import MarkdownFormat.Proofs.Render.Performance

namespace MarkdownFormat

/-- The action runs the script, unless the sink fails in the middle: then it stops with
the sink's own fault and leaves the sink as the whole script would. -/
def Checked (action : EStateM RenderFault RenderState WalkStatus) (before : RenderState)
    (script : List WriterCall) (after : RenderState) : Prop :=
  ∀ writer written, writer.health = .sound → writer.run? script = some written →
    (written.health = .sound →
      action { before with writer } = .ok .proceed { after with writer := written }) ∧
    ∀ fault, written.health = .failed (some fault) →
      ∃ stopped, action { before with writer } = .error (.io fault) stopped ∧
        stopped.writer.sink = written.sink

namespace LineWriter

/-- A writer that is not sound was not sound any more when the sink failed. -/
theorem isFailed_of_health {writer : LineWriter} {fault : Option IoFault}
    (hhealth : writer.health = .failed fault) : writer.isFailed = true := by
  simp [isFailed, hhealth]

end LineWriter

namespace Checked

variable {before middle after : RenderState}

/-- Going on asks nothing of the writer. -/
theorem pure : Checked (pure .proceed) before [] before := by
  intro writer written hsound hrun
  cases hrun
  constructor
  · intro _
    rfl
  · intro fault hfailed
    rw [hsound] at hfailed
    cases hfailed

/-- What follows goes on where the first part ended. -/
theorem bind {action : EStateM RenderFault RenderState WalkStatus}
    {next : WalkStatus → EStateM RenderFault RenderState WalkStatus}
    {first second : List WriterCall} (haction : Checked action before first middle)
    (hnext : Checked (next .proceed) middle second after) :
    Checked (action >>= next) before (first ++ second) after := by
  intro writer written hsound hrun
  obtain ⟨between, hfirst, hsecond⟩ := LineWriter.run?_append_eq_some.mp hrun
  obtain ⟨hok, herror⟩ := haction writer between hsound hfirst
  have hbind : ∀ state, (action >>= next) state = EStateM.bind action next state :=
    fun _ => rfl
  cases hbetween : between.health with
  | sound =>
      obtain ⟨hnextOk, hnextError⟩ := hnext between written hbetween hsecond
      rw [hbind, EStateM.bind, hok hbetween]
      exact ⟨hnextOk, hnextError⟩
  | failed fault =>
      -- The rest of the script does not touch a writer that has failed.
      obtain ⟨hsink, hhealth⟩ :=
        LineWriter.run?_of_isFailed (LineWriter.isFailed_of_health hbetween) hsecond
      rw [hbetween] at hhealth
      constructor
      · intro hwritten
        rw [hwritten] at hhealth
        cases hhealth
      · intro reported hwritten
        rw [hwritten] at hhealth
        cases hhealth
        obtain ⟨stopped, hstopped, hkept⟩ := herror reported hbetween
        refine ⟨stopped, ?_, hkept.trans hsink.symm⟩
        rw [hbind, EStateM.bind, hstopped]

end Checked

namespace Renderer

/-- A check lets a sound writer pass. -/
theorem checkSink_of_sound {state : RenderState} (hsound : state.writer.health = .sound) :
    checkSink state = .ok () state := by
  have hcheck : state.writer.check = (.ok (), state.writer) := by
    rw [LineWriter.check, hsound]
  rw [checkSink, get_bind_apply]
  simp only [hcheck]
  rfl

/-- A check hands out the fault that a failed writer keeps. -/
theorem checkSink_of_health {state : RenderState} {fault : Option IoFault}
    (hfailed : state.writer.health = .failed fault) :
    checkSink state = .error (.io (fault.getD .alreadyFailed))
      { state with writer := { state.writer with health := .failed none } } := by
  have hcheck : state.writer.check =
      (.error (fault.getD .alreadyFailed), { state.writer with health := .failed none }) := by
    rw [LineWriter.check, hfailed]
  rw [checkSink, get_bind_apply]
  simp only [hcheck]
  rfl

/-- A check hands out the fault of the sink and leaves what the sink holds. -/
theorem checkSink_of_failed {state : RenderState} {fault : IoFault}
    (hfailed : state.writer.health = .failed (some fault)) :
    ∃ stopped, checkSink state = .error (.io fault) stopped ∧
      stopped.writer.sink = state.writer.sink :=
  ⟨_, checkSink_of_health hfailed, rfl⟩

variable {renderer : Renderer} {scene : Scene} {id : NodeId}
  {before inside inner after : RenderState}

/-- A visit goes through if its function does and the writer is sound. -/
theorem visit_of_dispatch {phase : Phase}
    (hdispatch : renderer.dispatch scene id phase before = .ok .proceed after)
    (hsound : after.writer.health = .sound) :
    renderer.visit scene id phase before = .ok .proceed after := by
  show EStateM.bind ((renderer.dispatch scene id phase).adaptExcept RenderFault.misuse) _ _ = _
  rw [EStateM.bind, EStateM.adaptExcept, hdispatch]
  show EStateM.bind checkSink _ _ = _
  rw [EStateM.bind, checkSink_of_sound hsound]
  rfl

/-- A visit is checked if its render function performs a script. -/
theorem checked_visit {phase : Phase} {script : List WriterCall}
    (hdispatch : Performs (renderer.dispatch scene id phase) before script .proceed after) :
    Checked (renderer.visit scene id phase) before script after := by
  intro writer written hsound hrun
  have hvisit : renderer.visit scene id phase { before with writer } =
      EStateM.bind checkSink (fun _ => EStateM.pure .proceed)
        { after with writer := written } := by
    show EStateM.bind
      ((renderer.dispatch scene id phase).adaptExcept RenderFault.misuse) _ _ = _
    rw [EStateM.bind, EStateM.adaptExcept, hdispatch writer written hrun]
    rfl
  rw [hvisit, EStateM.bind]
  constructor
  · intro hwritten
    rw [@checkSink_of_sound { after with writer := written } hwritten]
    rfl
  · intro fault hwritten
    obtain ⟨stopped, hcheck, hsink⟩ :=
      @checkSink_of_failed { after with writer := written } fault hwritten
    exact ⟨stopped, by rw [hcheck], hsink⟩

/-- Leaving a node makes its visit. -/
theorem checked_leave {script : List WriterCall}
    (hdispatch : Performs (renderer.dispatch scene id .exit) before script .proceed after) :
    Checked (Document.leave (renderer.visit scene) id) before script after := by
  rw [← List.append_nil script]
  exact (checked_visit hdispatch).bind .pure

/-- Walking a node comes to entering it, walking its children and leaving it. -/
theorem checked_walkTo {depth : Nat} {opening content closing : List WriterCall}
    (henter : Performs (renderer.dispatch scene id .enter) before opening .proceed inside)
    (hchildren : Checked (Document.walkEach
      (scene.document.walkTo (renderer.visit scene) depth) (scene.document.children id))
      inside content inner)
    (hexit : Performs (renderer.dispatch scene id .exit) inner closing .proceed after) :
    Checked (scene.document.walkTo (renderer.visit scene) (depth + 1) id) before
      (opening ++ (content ++ closing)) after :=
  (checked_visit henter).bind (hchildren.bind (checked_leave hexit))

/-- After the walk, rendering ends the last line and checks once more. -/
theorem renderNode_eq (sink : Sink) (source : Bytes) (document : Document) :
    renderer.renderNode sink source document id =
      match document.walk (renderer.visit ⟨source, document, renderer.config⟩) id
          { writer := LineWriter.onto sink } with
      | .ok _ state =>
        (match checkSink { state with writer := state.writer.flushLine } with
        | .ok () last => (none, last)
        | .error fault last => (some fault, last))
      | .error fault last => (some fault, last) := by
  rw [renderNode]
  simp only [renderNodeM, bind, EStateM.bind]
  cases document.walk (renderer.visit ⟨source, document, renderer.config⟩) id
    { writer := LineWriter.onto sink } <;> rfl

/-- A rendering runs the script of its walk and ends the last line. It fails if a write
has failed by then, with the fault of the sink. -/
theorem renderNode_of_checked {sink : Sink} {source : Bytes} {document : Document}
    {script : List WriterCall} {written : LineWriter}
    (hwalk : Checked
      (document.walk (renderer.visit ⟨source, document, renderer.config⟩) id)
      { writer := LineWriter.onto sink } script after)
    (hrun : (LineWriter.onto sink).run? (script ++ [.flushLine]) = some written) :
    (written.health = .sound →
      renderer.renderNode sink source document id =
        (none, { after with writer := written })) ∧
    ∀ fault, written.health = .failed (some fault) →
      ∃ stopped, renderer.renderNode sink source document id =
        (some (.io fault), stopped) ∧ stopped.writer.sink = written.sink := by
  obtain ⟨walked, hscript, hlast⟩ := LineWriter.run?_append_eq_some.mp hrun
  cases hlast
  obtain ⟨hok, herror⟩ := hwalk _ walked rfl hscript
  rw [renderNode_eq]
  cases hwalked : walked.health with
  | sound =>
      simp only [hok hwalked]
      constructor
      · intro hwritten
        have hcheck := @checkSink_of_sound { after with writer := walked.flushLine } hwritten
        simp only [hcheck]
      · intro fault hwritten
        obtain ⟨stopped, hcheck, hsink⟩ :=
          @checkSink_of_failed { after with writer := walked.flushLine } fault hwritten
        exact ⟨stopped, by simp only [hcheck], hsink⟩
  | failed kept =>
      -- The sink failed during the walk, so the flush finds nothing to do.
      rw [LineWriter.flushLine_of_isFailed (LineWriter.isFailed_of_health hwalked)]
      constructor
      · intro hwritten
        rw [hwalked] at hwritten
        cases hwritten
      · intro fault hwritten
        obtain ⟨stopped, hstopped, hsink⟩ := herror fault hwritten
        exact ⟨stopped, by simp only [hstopped], hsink⟩

end Renderer

end MarkdownFormat
