/-
# The log of a rendering

All visits of a rendering into a sink that never fails go through, in the order that the
document gives. A node that is entered is left again, with the leads that entering it left,
and all the lines that are delivered in between stand behind these leads.
-/

import MarkdownFormat.Proofs.Document.Tour
import MarkdownFormat.Proofs.Document.VisitOrder
import MarkdownFormat.Proofs.Render.Balance
import MarkdownFormat.Proofs.Render.Routine
import MarkdownFormat.Proofs.Writer.LinesBehind

namespace MarkdownFormat

open WriterCall

/-- A visit leaves the node that another one enters: what is entered in between has been left
before. -/
def Visit.IsLeftBy (log : List (Visit RenderState)) (entered left : Visit RenderState) : Prop :=
  left.id = entered.id ∧ left.phase = .exit ∧
    ∃ inside, openAfter [] inside = some [] ∧ entered :: (inside ++ [left]) <:+: log

/-- A visit leaves the node that another one enters, with all leads in place. -/
structure Visit.Encloses (log : List (Visit RenderState)) (entered left : Visit RenderState) :
    Prop where
  isLeftBy : entered.IsLeftBy log left
  free : entered.before.writer.Free
  innerFree : left.before.writer.Free
  restored : entered.after.RestoredBy left.before
  /-- What is delivered in between stands behind the leads. -/
  brings : ∃ pieces, LineWriter.Brings entered.after.writer.leads entered.after.writer
    left.before.writer pieces

/-- Each node that is entered is left again. -/
def ClosesNodes (log : List (Visit RenderState)) : Prop :=
  ∀ entered ∈ log, entered.phase = .enter → ∃ left, entered.Encloses log left

namespace ClosesNodes

variable {log later : List (Visit RenderState)}

/-- No visits leave nothing open. -/
theorem nil : ClosesNodes [] :=
  fun _ hmem => absurd hmem List.not_mem_nil

/-- What is left in a part of a log is left in the whole. -/
theorem mono (hlog : ClosesNodes log) (hlater : log <:+: later) :
    ∀ entered ∈ log, entered.phase = .enter → ∃ left, entered.Encloses later left := by
  intro entered hmem henter
  obtain ⟨left, hleft⟩ := hlog entered hmem henter
  obtain ⟨hid, hexit, inside, hopen, hinside⟩ := hleft.isLeftBy
  exact ⟨left, { hleft with isLeftBy := ⟨hid, hexit, inside, hopen, hinside.trans hlater⟩ }⟩

/-- Two parts that leave what they enter do so together. -/
theorem append (hlog : ClosesNodes log) (hlater : ClosesNodes later) :
    ClosesNodes (log ++ later) := by
  intro entered hmem
  rcases List.mem_append.mp hmem with hmem | hmem
  · exact hlog.mono (List.prefix_append log later).isInfix entered hmem
  · exact hlater.mono (List.suffix_append log later).isInfix entered hmem

/-- Around the nodes below it, a node is closed, too. -/
theorem around {entered left : Visit RenderState} (hlog : ClosesNodes log)
    (hexit : left.phase = .exit)
    (hleft : entered.Encloses (entered :: (log ++ [left])) left) :
    ClosesNodes (entered :: (log ++ [left])) := by
  intro visit hmem henter
  rcases List.mem_cons.mp hmem with rfl | hmem
  · exact ⟨left, hleft⟩
  · rcases List.mem_append.mp hmem with hmem | hmem
    · refine hlog.mono ?_ visit hmem henter
      exact (List.prefix_append log [left]).isInfix.trans (List.suffix_cons entered _).isInfix
    · rw [List.mem_singleton.mp hmem, hexit] at henter
      cases henter

end ClosesNodes

namespace Renderer

section Visits

variable {config : Config} {strikethrough : Bool} {scene : Scene} {id : NodeId}
  {before inner : RenderState}

/-- A visit with a function that performs a script goes through if the script does. -/
theorem visit_of_performs {renderer : Renderer} {phase : Phase} {script : List WriterCall}
    {after : RenderState} {written : LineWriter}
    (hdispatch : Performs (renderer.dispatch scene id phase) before script .proceed after)
    (hrun : before.writer.run? script = some written) (hfree : written.Free) :
    renderer.visit scene id phase before = .ok .proceed { after with writer := written } :=
  visit_of_dispatch (hdispatch before.writer written hrun) hfree.sound

/-- What a visit comes to, if its function performs a script. -/
theorem run?_of_visit {renderer : Renderer} {phase : Phase} {script : List WriterCall}
    {state after : RenderState}
    (hperforms : Performs (renderer.dispatch scene id phase) before script .proceed state)
    (hlevel : Level script) (hfree : before.writer.Free)
    (hvisit : renderer.visit scene id phase before = .ok .proceed after) :
    before.writer.run? script = some after.writer := by
  obtain ⟨written, -, hrun, hwritten, -⟩ := hfree.exists_brings_of_level hlevel
  rw [visit_of_performs hperforms hrun hwritten] at hvisit
  cases hvisit
  exact hrun

/-- A writer over a sink without a limit keeps it. -/
theorem kept_free : LineWriter.Kept (fun _ => True) LineWriter.Free where
  put hfree _ := hfree.put _
  endLine hfree := hfree.put _
  pushLead _ hfree _ := ⟨hfree.sound, hfree.unlimited⟩
  popLead {writer next} hfree hpop := by
    rw [LineWriter.popLead?] at hpop
    split at hpop <;> cases hpop
    exact ⟨hfree.sound, hfree.unlimited⟩
  check {writer} hfree := by
    rw [LineWriter.check, hfree.sound]
    exact hfree

/-- A visit leaves a writer that delivers everything as such a writer. -/
theorem free_of_dispatch {phase : Phase} {status : WalkStatus} {after : RenderState}
    (hfree : before.writer.Free)
    (hdispatch : (forMarkdown config strikethrough).dispatch scene id phase before =
      .ok status after) : after.writer.Free := by
  have hroutine : Routine (fun _ => True)
      ((forMarkdown config strikethrough).dispatch scene id phase) :=
    .dispatch admissible_any config strikethrough fun _ _ => trivial
  have hlast := hroutine.keeps kept_free before hfree
  rw [hdispatch] at hlast
  exact hlast

/-- A node can be entered in any state, and left in any that restores what entering it left. -/
theorem exists_visits_restored (config : Config) (strikethrough : Bool) (scene : Scene)
    (id : NodeId) (hfree : before.writer.Free) :
    let visit := (forMarkdown config strikethrough).visit scene id
    ∃ inside, visit .enter before = .ok .proceed inside ∧ inside.writer.Free ∧
      (forMarkdown config strikethrough).dispatch scene id .enter before = .ok .proceed inside ∧
      ∀ inner : RenderState, inside.RestoredBy inner → inner.writer.Free →
        ∃ after, visit .exit inner = .ok .proceed after ∧ after.writer.Free ∧
          (forMarkdown config strikethrough).dispatch scene id .exit inner = .ok .proceed after ∧
          before.RestoredBy after := by
  obtain ⟨inside, henter, hleave⟩ :=
    (paired_dispatch config strikethrough scene id).exists_restored before
  have hinside := free_of_dispatch hfree henter
  refine ⟨inside, visit_of_dispatch henter hinside.sound, hinside, henter, ?_⟩
  intro inner hrestored hinner
  obtain ⟨after, hexit, hafter⟩ := hleave inner hrestored
  have hleft := free_of_dispatch hinner hexit
  exact ⟨after, visit_of_dispatch hexit hleft.sound, hleft, hexit, hafter⟩

end Visits

section Walks

variable {scene : Scene}

/-- Whatever nodes are walked, everything that is entered is left, the leads are restored, and
what is delivered stands behind them. -/
theorem logs_walkEach (config : Config) (strikethrough : Bool) {before : RenderState}
    (hfree : before.writer.Free) (depth : Nat) (ids : List NodeId) :
    let visit := (forMarkdown config strikethrough).visit scene
    Logs (Document.walkEach (scene.document.walkTo visit.logged depth) ids) before
      fun after visits => after.writer.Free ∧ before.RestoredBy after ∧
        openAfter [] visits = some [] ∧
        ∃ pieces, LineWriter.Brings before.writer.leads before.writer after.writer pieces := by
  intro visit log
  obtain ⟨script, after, hchecked, hlevel, -⟩ := exists_checked_walkEach
    (exists_checked_walkTo (paired_dispatch config strikethrough scene) depth) ids before
  obtain ⟨written, pieces, hrun, hwritten, -, hpieces⟩ := hfree.exists_brings_of_level hlevel
  have hwalk := (hchecked before.writer written hfree.sound hrun).1 hwritten.sound
  have hplain := Document.projects_walkEach
    (scene.document.projects_walkTo_logged visit depth) ids before log
  rw [hwalk] at hplain
  rcases Orderly.walkEach (fun id state => orderly_walkTo (paired_dispatch config strikethrough
      scene) depth id state []) ids before log with
    ⟨visits, last, left, hok, hopen, hrestored, rfl⟩ | ⟨visits, last, fault, herror, -⟩
  · rw [hok] at hplain
    obtain ⟨-, rfl⟩ := EStateM.Result.ok.inj hplain
    exact ⟨_, visits, hok, hwritten, hrestored, hopen, pieces, hpieces⟩
  · rw [herror] at hplain
    cases hplain

/-- No node is visited at the end of the depth. -/
theorem logs_walkEach_zero (visit : Visitor RenderFault (RenderState × List (Visit RenderState)))
    (ids : List NodeId) (before : RenderState) :
    Logs (Document.walkEach (scene.document.walkTo visit 0) ids) before
      fun after visits => after = before ∧ visits = [] := by
  induction ids with
  | nil => exact .pure ⟨rfl, rfl⟩
  | cons id ids ih => exact ih

/-- The visits of a log go through, in the order that the document gives, and close what they
open. -/
structure IsRun (config : Config) (strikethrough : Bool) (scene : Scene)
    (calls : List (NodeId × Phase)) (before after : RenderState)
    (log : List (Visit RenderState)) : Prop where
  passes : ((forMarkdown config strikethrough).visit scene).Passes before log after
  calls_eq : log.map Visit.call = calls
  free : after.writer.Free
  closesNodes : ClosesNodes log

namespace IsRun

variable {config : Config} {strikethrough : Bool} {scene : Scene}
  {calls laterCalls : List (NodeId × Phase)} {before inside middle after : RenderState}
  {log later : List (Visit RenderState)}

/-- No visits change nothing. -/
theorem nil (hfree : before.writer.Free) :
    IsRun config strikethrough scene [] before before [] :=
  ⟨.nil _, rfl, hfree, .nil⟩

/-- Visits come one after the other. -/
theorem append (hfirst : IsRun config strikethrough scene calls before middle log)
    (hsecond : IsRun config strikethrough scene laterCalls middle after later) :
    IsRun config strikethrough scene (calls ++ laterCalls) before after (log ++ later) where
  passes := Visitor.Passes.append_iff.mpr ⟨middle, hfirst.passes, hsecond.passes⟩
  calls_eq := by rw [List.map_append, hfirst.calls_eq, hsecond.calls_eq]
  free := hsecond.free
  closesNodes := hfirst.closesNodes.append hsecond.closesNodes

/-- The visits to the nodes below another one, between entering and leaving that one. -/
theorem around {id : NodeId} {inner : RenderState}
    (henter : (forMarkdown config strikethrough).visit scene id .enter before =
      .ok .proceed inside)
    (hchildren : IsRun config strikethrough scene calls inside inner log)
    (hexit : (forMarkdown config strikethrough).visit scene id .exit inner = .ok .proceed after)
    (hfree : before.writer.Free) (hleft : after.writer.Free) (hrestored : inside.RestoredBy inner)
    (hopen : openAfter [] log = some [])
    (hbrings : ∃ pieces, LineWriter.Brings inside.writer.leads inside.writer inner.writer pieces) :
    IsRun config strikethrough scene ((id, .enter) :: (calls ++ [(id, .exit)])) before after
      (⟨id, .enter, before, inside⟩ :: (log ++ [⟨id, .exit, inner, after⟩])) where
  passes := .cons henter (Visitor.Passes.append_iff.mpr
    ⟨inner, hchildren.passes, .cons hexit (.nil _)⟩)
  calls_eq := by
    rw [List.map_cons, List.map_append, hchildren.calls_eq]
    rfl
  free := hleft
  closesNodes := hchildren.closesNodes.around rfl
    { isLeftBy := ⟨rfl, rfl, log, hopen, List.infix_rfl⟩
      free := hfree
      innerFree := hchildren.free
      restored := hrestored
      brings := hbrings }

end IsRun

/-- Nodes that can be walked one by one can be walked in a row. -/
theorem logs_isRun_walkEach {config : Config} {strikethrough : Bool} {depth : Nat}
    (hwalk : ∀ id {before : RenderState}, before.writer.Free →
      Logs (scene.document.walkTo ((forMarkdown config strikethrough).visit scene).logged depth id)
        before (IsRun config strikethrough scene (scene.document.callsTo depth id) before))
    (ids : List NodeId) {before : RenderState} (hfree : before.writer.Free) :
    let visit := (forMarkdown config strikethrough).visit scene
    Logs (Document.walkEach (scene.document.walkTo visit.logged depth) ids) before
      (IsRun config strikethrough scene (ids.flatMap (scene.document.callsTo depth)) before) := by
  induction ids generalizing before with
  | nil => exact .pure (.nil hfree)
  | cons id ids ih =>
      apply (hwalk id hfree).bind
      intro middle visits hfirst log
      obtain ⟨after, later, hok, hsecond⟩ := ih hfirst.free log
      exact ⟨after, later, hok, hfirst.append hsecond⟩

/-- Walking a node makes the visits that the document gives. -/
theorem logs_isRun_walkTo (config : Config) (strikethrough : Bool) (depth : Nat) (id : NodeId)
    {before : RenderState} (hfree : before.writer.Free) :
    Logs (scene.document.walkTo ((forMarkdown config strikethrough).visit scene).logged depth id)
      before (IsRun config strikethrough scene (scene.document.callsTo depth id) before) := by
  induction depth generalizing id before with
  | zero => exact .pure (.nil hfree)
  | succ depth ih =>
      obtain ⟨inside, henter, hinside, -, hleave⟩ :=
        exists_visits_restored config strikethrough scene id hfree
      have hchildren := (logs_isRun_walkEach (fun child {before} => @ih child before)
        (scene.document.children id) hinside).and
        (logs_walkEach config strikethrough hinside depth _)
      refine .walkTo henter hchildren ?_
      rintro inner visits ⟨hrun, hinner, hrestored, hopen, hbrings⟩
      obtain ⟨after, hexit, hafter, -, -⟩ := hleave inner hrestored hinner
      exact ⟨after, hexit,
        .around henter hrun hexit hfree hafter hrestored hopen hbrings⟩

end Walks

/-- Rendering into a sink that never fails comes to its end, and its log is a run through the
whole document. -/
theorem exists_render_unlimited (config : Config) (strikethrough : Bool) (source : Bytes)
    (document : Document) :
    let renderer := forMarkdown config strikethrough
    ∃ after, IsRun config strikethrough ⟨source, document, renderer.config⟩
        (document.callsTo document.size Document.root) { writer := .onto .unlimited } after
        (renderer.visits .unlimited source document Document.root) ∧
      renderer.render .unlimited source document =
        (none, { after with writer := after.writer.flushLine }) := by
  intro renderer
  let scene : Scene := ⟨source, document, renderer.config⟩
  let start : RenderState := { writer := .onto .unlimited }
  have hfree : start.writer.Free := LineWriter.onto_free rfl
  obtain ⟨after, visits, hwalk, hrun⟩ :=
    @logs_isRun_walkTo scene config strikethrough document.size Document.root start hfree []
  have hlog : renderer.visits .unlimited source document Document.root = visits := by
    rw [Renderer.visits.eq_1, Document.walk, hwalk]
    rfl
  have hplain : document.walk (renderer.visit scene) Document.root start = .ok .proceed after := by
    rw [Document.walk, ← document.projects_walkTo_logged (renderer.visit scene) document.size
      Document.root start [], hwalk]
    rfl
  have hflushed := (hrun.free.exists_brings_flushLine (List.nil_append _).symm).1
  have hcheck := @checkSink_of_sound { after with writer := after.writer.flushLine } hflushed.sound
  refine ⟨after, hlog ▸ hrun, ?_⟩
  rw [render, renderNode_eq, hplain]
  simp only [hcheck]

end Renderer

end MarkdownFormat
