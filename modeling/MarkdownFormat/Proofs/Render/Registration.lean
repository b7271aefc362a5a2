/-
# Registered functions

What is registered for a block kind is called within what all blocks have in common: behind the
empty line before the block on entering, in front of the end of its last line on leaving. So
whatever the function does, no line is open where a block has been left, and the block behind it
is set off if it is to be. The walk acts on what the function answers, but not on the answer on
leaving a block, which that of the end of the line covers.
-/

import MarkdownFormat.Proofs.Document.LogOrder
import MarkdownFormat.Proofs.Render.AtxHeading
import MarkdownFormat.Proofs.Render.Balance
import MarkdownFormat.Proofs.Render.Completion

namespace MarkdownFormat

/-- The state in which the function of a kind is called, which is behind the empty line before a
block that is entered. -/
def RenderState.called (scene : Scene) (id : NodeId) (phase : Phase) (block : Bool)
    (state : RenderState) : RenderState :=
  if block && phase = .enter then { state with writer := Heading.blockStart scene id state.writer }
  else state

section AsBlock

variable {own other : RenderFn} {scene : Scene} {id : NodeId} {state : RenderState}

/-- The separator leaves the state in which a block is called. -/
theorem separator_enter_apply : Render.separator scene id .enter state =
    .ok .proceed (state.called scene id .enter true) := by
  simp only [Render.separator, RenderState.called, Heading.blockStart, Bool.true_and,
    decide_true, if_true]
  split <;> rfl

/-- So a block function is called in this state. -/
theorem asBlock_enter_apply (own : RenderFn) : asBlock own scene id .enter state =
    own scene id .enter (state.called scene id .enter true) := by
  have hblock : asBlock own scene id .enter state =
      EStateM.bind (Render.separator scene id .enter)
        (fun _ => own scene id .enter >>= fun status => pure status) state := rfl
  rw [hblock, EStateM.bind, separator_enter_apply]
  show EStateM.bind _ _ _ = _
  rw [EStateM.bind]
  cases own scene id .enter (state.called scene id .enter true) <;> rfl

/-- Where no line is open, what comes before a block that is set off is one line without content. -/
theorem RenderState.called_of_free (hfree : state.writer.Free) (hbuffer : state.writer.buffer = [])
    (hprevious : (scene.node id).previous.isSome) :
    let written :=
      if (scene.node id).blankBefore then [state.writer.finishedLine []] else []
    state.called scene id .enter true = { state with
      writer := { state.writer with
        sink := { state.writer.sink with
          received := state.writer.sink.received ++ written.toArray }
        line := state.writer.line + written.length } } := by
  simp only [RenderState.called, Heading.blockStart, hprevious, Bool.true_and, decide_true, if_true]
  split
  · rw [LineWriter.endLine, hfree.put_newline (by simp [hbuffer]), hbuffer,
      LineWriter.deliver_unlimited hfree.unlimited]
    simp [decorate, leadBytes, finished, LineWriter.finishedLine, LineWriter.currentLead]
  · simp

/-- What a function answers on leaving a block is not heard. -/
theorem asBlock_congr (henter : ∀ scene id, own scene id .enter = other scene id .enter)
    (hexit : ∀ scene id, discard (own scene id .exit) = discard (other scene id .exit)) :
    asBlock own = asBlock other := by
  funext scene id phase state
  cases phase with
  | enter => rw [asBlock_enter_apply, asBlock_enter_apply, henter]
  | exit =>
      have hblock : ∀ own : RenderFn, asBlock own scene id .exit =
          (discard (own scene id .exit) >>= fun _ => Render.separator scene id .exit) := by
        intro own
        funext state
        show EStateM.bind (own scene id .exit) _ state =
          EStateM.bind (EStateM.map (fun _ => ()) (own scene id .exit)) _ state
        rw [EStateM.bind, EStateM.bind, EStateM.map]
        cases own scene id .exit state <;> rfl
      rw [hblock, hblock, hexit]

end AsBlock

namespace Renderer

/-- The log of a rendering is that of its walk. -/
theorem isLog_visits (renderer : Renderer) (sink : Sink) (source : Bytes) (document : Document)
    (id : NodeId) :
    let visit := renderer.visit ⟨source, document, renderer.config⟩
    visit.IsLog { writer := .onto sink } (renderer.visits sink source document id)
      (document.walk visit id { writer := .onto sink }) := by
  intro visit
  obtain ⟨tour, final, ⟨hturn, hnests⟩, hmakes⟩ :=
    document.exists_makes_walkTo visit document.size id { writer := .onto sink }
  refine ⟨tour, final, hturn, hnests, ?_, hmakes.walkTo_eq⟩
  have hlogged : document.walk visit.logged id ({ writer := .onto sink }, []) =
      withLog (visit.untilEnd tour) (visit.ending tour final) := hmakes []
  rw [visits, hlogged]
  cases visit.ending tour final <;> rfl

/-- A visit gives the answer of its function, or it fails because a write has failed. -/
theorem visit_of_dispatch_eq_ok {renderer : Renderer} {scene : Scene} {id : NodeId} {phase : Phase}
    {before after : RenderState} {status : WalkStatus}
    (hdispatch : renderer.dispatch scene id phase before = .ok status after) :
    (after.writer.isFailed = false ∧ renderer.visit scene id phase before = .ok status after) ∨
      (after.writer.isFailed = true ∧ ∃ fault stopped,
        renderer.visit scene id phase before = .error fault stopped ∧
          stopped.writer.sink = after.writer.sink) := by
  have hvisit : renderer.visit scene id phase before =
      EStateM.bind checkSink (fun _ => EStateM.pure status) after := by
    show EStateM.bind ((renderer.dispatch scene id phase).adaptExcept RenderFault.misuse) _ _ = _
    rw [EStateM.bind, EStateM.adaptExcept, hdispatch]
    rfl
  rw [hvisit, EStateM.bind]
  cases hhealth : after.writer.health with
  | sound =>
      rw [checkSink_of_sound hhealth]
      exact .inl ⟨by simp [LineWriter.isFailed, hhealth], rfl⟩
  | failed fault =>
      rw [checkSink_of_health hhealth]
      exact .inr ⟨LineWriter.isFailed_of_health hhealth, _, _, rfl, rfl⟩

/-- A rendering whose walk comes to an answer ends the last line. -/
theorem sink_renderNode_of_walk {renderer : Renderer} {sink : Sink} {source : Bytes}
    {document : Document} {id : NodeId} {status : WalkStatus} {after : RenderState}
    (hwalk : document.walk (renderer.visit ⟨source, document, renderer.config⟩) id
      { writer := .onto sink } = .ok status after) :
    (renderer.renderNode sink source document id).2.writer.sink = after.writer.flushLine.sink := by
  rw [renderNode_eq, hwalk]
  cases hhealth : after.writer.flushLine.health with
  | sound =>
      simp only [@checkSink_of_sound { after with writer := after.writer.flushLine } hhealth]
  | failed fault =>
      simp only [@checkSink_of_health { after with writer := after.writer.flushLine } _ hhealth]

/-- Where a walk fails, nothing more is delivered. -/
theorem sink_renderNode_of_error {renderer : Renderer} {sink : Sink} {source : Bytes}
    {document : Document} {id : NodeId} {fault : RenderFault} {stopped : RenderState}
    (hwalk : document.walk (renderer.visit ⟨source, document, renderer.config⟩) id
      { writer := .onto sink } = .error fault stopped) :
    (renderer.renderNode sink source document id).2.writer.sink = stopped.writer.sink := by
  rw [renderNode_eq, hwalk]

section Log

variable {renderer : Renderer} {sink : Sink} {source : Bytes} {document : Document} {id : NodeId}
  {front back : List (Visit RenderState)} {made : Visit RenderState}
  (hlog : renderer.visits sink source document id = front ++ made :: back)
  {after : RenderState}
include hlog

/-- Where a function answers to stop, nothing more is visited, and only the last line is ended. -/
theorem of_dispatch_stop
    (hdispatch : renderer.dispatch ⟨source, document, renderer.config⟩ made.id made.phase
      made.before = .ok .stop after) :
    back = [] ∧
      (renderer.renderNode sink source document id).2.writer.sink = after.writer.flushLine.sink := by
  have hwhole := isLog_visits renderer sink source document id
  rw [hlog] at hwhole
  rcases visit_of_dispatch_eq_ok hdispatch with
    ⟨-, hok⟩ | ⟨hfailed, fault, stopped, herror, hsink⟩
  · obtain ⟨hback, hwalk⟩ := hwhole.of_ends (by rw [Visitor.ends, Visitor.reply, hok])
    exact ⟨hback, sink_renderNode_of_walk (hwalk.trans hok)⟩
  · obtain ⟨hback, hwalk⟩ := hwhole.of_ends (by rw [Visitor.ends, Visitor.reply, herror])
    rw [LineWriter.flushLine_of_isFailed hfailed, ← hsink]
    exact ⟨hback, sink_renderNode_of_error (hwalk.trans herror)⟩

/-- Where a function answers to skip the children of a node that is entered, the node is left
next. -/
theorem of_dispatch_skipChildren (henter : made.phase = .enter)
    (hdispatch : renderer.dispatch ⟨source, document, renderer.config⟩ made.id made.phase
      made.before = .ok .skipChildren after) (hhealthy : after.writer.isFailed = false) :
    ∃ left rest, back = left :: rest ∧ left.id = made.id ∧ left.phase = .exit := by
  have hwhole := isLog_visits renderer sink source document id
  rw [hlog] at hwhole
  refine hwhole.exists_left_of_skips henter ?_
  rcases visit_of_dispatch_eq_ok hdispatch with ⟨-, hok⟩ | ⟨hfailed, -⟩
  · rw [Visitor.skips, Visitor.reply, hok]
  · rw [hfailed] at hhealthy
    cases hhealthy

end Log

section Register

variable (renderer : Renderer) (kind : Kind) (render : RenderFn)

/-- A registered kind has the function, as a block if it is one. -/
theorem functions_register : (renderer.register kind render).functions kind =
    some (if kind.isBlock then asBlock render else render) :=
  if_pos rfl

/-- A registered function is called at each visit, and its answer is heard, except on leaving a
block. -/
theorem dispatch_register {scene : Scene} {id : NodeId} {phase : Phase}
    (hkind : scene.document.kind id = kind) (hheard : phase = .enter ∨ kind.isBlock = false)
    (state : RenderState) :
    (renderer.register kind render).dispatch scene id phase state =
      render scene id phase (state.called scene id phase kind.isBlock) := by
  simp only [dispatch, hkind, functions_register]
  cases hblock : kind.isBlock with
  | false => rfl
  | true =>
      obtain rfl : phase = .enter := hheard.resolve_right (by simp [hblock])
      exact asBlock_enter_apply render

/-- The walk acts on the answer of a registered function. If it stops, nothing more is visited,
and of the output only the end of the last line is left to come; if it skips the children of a
node that is entered, the node is left next. Only the answer on leaving a block is not heard:
another function that does the same makes the same renderer, whatever it answers there. -/
theorem register_obeys (sink : Sink) (source : Bytes) (document : Document) (id : NodeId) :
    let registered := renderer.register kind render
    let scene : Scene := ⟨source, document, renderer.config⟩
    (∀ front made back,
      registered.visits sink source document id = front ++ made :: back →
      document.kind made.id = kind → made.phase = .enter ∨ kind.isBlock = false →
      ∀ status after,
        render scene made.id made.phase
          (made.before.called scene made.id made.phase kind.isBlock) = .ok status after →
        registered.dispatch scene made.id made.phase made.before = .ok status after ∧
        (status = .stop → back = [] ∧
          (registered.renderNode sink source document id).2.writer.sink =
            after.writer.flushLine.sink) ∧
        (status = .skipChildren → made.phase = .enter → after.writer.isFailed = false →
          ∃ left rest, back = left :: rest ∧ left.id = made.id ∧ left.phase = .exit)) ∧
    (kind.isBlock → ∀ other : RenderFn,
      (∀ scene id, render scene id .enter = other scene id .enter) →
      (∀ scene id, discard (render scene id .exit) = discard (other scene id .exit)) →
      registered = renderer.register kind other) := by
  intro registered scene
  constructor
  · intro front made back hlog hkind hheard status after hanswer
    have hdispatch : registered.dispatch scene made.id made.phase made.before =
        .ok status after :=
      (@dispatch_register renderer kind render scene _ _ hkind hheard made.before).trans hanswer
    refine ⟨hdispatch, ?_, ?_⟩
    · rintro rfl
      exact of_dispatch_stop hlog hdispatch
    · rintro rfl henter hhealthy
      exact of_dispatch_skipChildren hlog henter hdispatch hhealthy
  · intro hblock other henter hexit
    simp only [registered, register, hblock, if_true, asBlock_congr henter hexit]

end Register

/-- Two paragraphs, and between them a rule; the rule and the second paragraph are set off. -/
def setOffRule : Document :=
  ⟨#[{ element := .document, firstChild := some 1, lastChild := some 4 },
    { element := .paragraph, parent := some 0, next := some 3, firstChild := some 2,
      lastChild := some 2 },
    { element := .plainText (.owned "a"), parent := some 1 },
    { element := .thematicBreak, parent := some 0, previous := some 1, next := some 4,
      blankBefore := true },
    { element := .paragraph, parent := some 0, previous := some 3, firstChild := some 5,
      lastChild := some 5, blankBefore := true },
    { element := .plainText (.owned "b"), parent := some 4 }]⟩

/-- Writes a word on entering a node, and answers the same both times. -/
def wordThen (word : List Char) (status : WalkStatus) : RenderFn := fun _ _ phase => do
  if phase = .enter then RenderM.putText word
  return status

/-- The first text is replaced, and nothing but the end of its line follows. -/
theorem register_obeys_wordThen :
    let registered := (standard {}).register .text (wordThen ['x'] .stop)
    ∃ front made, registered.visits .unlimited [] setOffRule Document.root = front ++ [made] ∧
      made.call = (2, .enter) ∧
      (registered.renderNode .unlimited [] setOffRule Document.root).2.writer.sink =
        (made.before.writer.put (Utf8.encode ['x'])).flushLine.sink ∧
      (registered.renderNode .unlimited [] setOffRule Document.root).2.writer.sink.received =
        #[Utf8.ofString "x\n"] := by
  intro registered
  have hcalls : (registered.visits .unlimited [] setOffRule Document.root).map Visit.call =
      [(0, .enter), (1, .enter)] ++ [(2, .enter)] := by
    decide +kernel
  obtain ⟨front, last, hlog, -, hlast⟩ := List.map_eq_append_iff.mp hcalls
  obtain ⟨made, back, rfl, hmade, -⟩ := List.map_eq_cons_iff.mp hlast
  obtain ⟨hid, hphase⟩ := Prod.mk.inj hmade
  have hkind : setOffRule.kind made.id = .text := by
    rw [hid]
    decide
  have hanswer : wordThen ['x'] .stop ⟨[], setOffRule, {}⟩ made.id made.phase made.before =
      .ok .stop { made.before with writer := made.before.writer.put (Utf8.encode ['x']) } := by
    rw [hphase]
    rfl
  obtain ⟨-, hstops, -⟩ := (register_obeys (standard {}) .text (wordThen ['x'] .stop) .unlimited []
    setOffRule Document.root).1 front made back hlog hkind (.inl hphase) .stop _ hanswer
  obtain ⟨rfl, hsink⟩ := hstops rfl
  exact ⟨front, made, hlog, hmade, hsink, by decide +kernel⟩

/-- Stops on leaving a node. -/
def stopOnLeaving : RenderFn := fun _ _ phase =>
  return if phase = .exit then .stop else .proceed

/-- The walk goes on behind a paragraph although the function of paragraphs stops there. -/
theorem not_forall_register_obeys :
    ¬ ∀ (kind : Kind) (render : RenderFn) (source : Bytes) (document : Document)
      (front back : List (Visit RenderState)) (made : Visit RenderState),
      ((standard {}).register kind render).visits .unlimited source document Document.root =
        front ++ made :: back →
      document.kind made.id = kind →
      (∀ state, ∃ after, render ⟨source, document, {}⟩ made.id made.phase state =
        .ok .stop after) →
      back = [] := by
  intro hobeys
  have hcalls : (((standard {}).register .paragraph stopOnLeaving).visits .unlimited [] setOffRule
      Document.root).map Visit.call =
      [(0, .enter), (1, .enter), (2, .enter), (2, .exit)] ++ (1, .exit) :: [(3, .enter),
        (3, .exit), (4, .enter), (5, .enter), (5, .exit), (4, .exit), (0, .exit)] := by
    decide +kernel
  obtain ⟨front, rest, hlog, -, hrest⟩ := List.map_eq_append_iff.mp hcalls
  obtain ⟨made, back, rfl, hmade, hback⟩ := List.map_eq_cons_iff.mp hrest
  obtain ⟨hid, hphase⟩ := Prod.mk.inj hmade
  have hkind : setOffRule.kind made.id = .paragraph := by
    rw [hid]
    decide
  rw [hobeys .paragraph stopOnLeaving [] setOffRule front back made hlog hkind fun state =>
    ⟨state, by rw [hphase]; rfl⟩] at hback
  cases hback

section Install

variable (registrations : List (Kind × RenderFn))

/-- The last registration of a kind decides. -/
theorem functions_install (renderer : Renderer) (kind : Kind) :
    (renderer.install ⟨registrations⟩).functions kind =
      match registrations.reverse.lookup kind with
      | some render => some (if kind.isBlock then asBlock render else render)
      | none => renderer.functions kind := by
  induction registrations generalizing renderer with
  | nil => rfl
  | cons entry rest ih =>
      obtain ⟨claimed, render⟩ := entry
      have hfirst : renderer.install ⟨(claimed, render) :: rest⟩ =
          (renderer.register claimed render).install ⟨rest⟩ := rfl
      rw [hfirst, ih, List.reverse_cons, List.lookup_append]
      cases rest.reverse.lookup kind with
      | some later => rfl
      | none =>
          by_cases hkind : kind = claimed
          · subst hkind
            simp [functions_register]
          · have hother : (kind == claimed) = false := beq_false_of_ne hkind
            simp [register, hkind, List.lookup_cons, hother]

/-- An extension changes no setting. -/
theorem config_install (renderer : Renderer) (extension : Extension) :
    (renderer.install extension).config = renderer.config := by
  obtain ⟨registrations⟩ := extension
  induction registrations generalizing renderer with
  | nil => rfl
  | cons entry rest ih => exact ih (renderer.register entry.1 entry.2)

/-- The own function of a block kind: the one that was registered last or, if none was, what the
built-in one does besides what all blocks have in common. -/
def IsOwn (kind : Kind) (own : RenderFn) : Prop :=
  match registrations.reverse.lookup kind with
  | some render => own = render
  | none => builtIn kind = some (asBlock own)

/-- A block of a kind with a function has one of its own behind the separation. -/
theorem exists_isOwn {config : Config} {kind : Kind} (hblock : kind.isBlock)
    (hrenderer : ((standard config).install ⟨registrations⟩).hasRenderer kind) :
    ∃ own, IsOwn registrations kind own ∧
      ((standard config).install ⟨registrations⟩).functions kind = some (asBlock own) := by
  rw [hasRenderer, functions_install] at hrenderer
  rw [functions_install]
  simp only [IsOwn, hblock, if_true]
  cases hlookup : registrations.reverse.lookup kind with
  | some render => exact ⟨render, rfl, rfl⟩
  | none =>
      rw [hlookup] at hrenderer
      obtain ⟨render, hrender⟩ := Option.isSome_iff_exists.mp hrenderer
      obtain ⟨own, rfl⟩ := builtIn_of_isBlock hblock hrender
      exact ⟨own, hrender, hrender⟩

end Install

/-- Blocks stay apart, whatever functions have been registered. Where a block has been left, no
line is open. And a block that is entered right behind another one has exactly one line without
content before it if it is to be set off, and none otherwise, before its own function is
called. The sink must be one that never fails when the block is entered, as a function could put
another one in its place. -/
theorem install_separates (config : Config) (registrations : List (Kind × RenderFn)) (sink : Sink)
    (source : Bytes) (document : Document) (id : NodeId) :
    let renderer := (standard config).install ⟨registrations⟩
    let scene : Scene := ⟨source, document, config⟩
    let log := renderer.visits sink source document id
    (∀ left ∈ log, left.phase = .exit → (document.kind left.id).isBlock →
      renderer.hasRenderer (document.kind left.id) →
      (∃ status after, renderer.visit scene left.id .exit left.before = .ok status after) →
      left.after.writer.buffer = []) ∧
    ∀ left entered, [left, entered] <:+: log → left.phase = .exit → entered.phase = .enter →
      (document.node entered.id).previous = some left.id →
      (document.kind left.id).isBlock → renderer.hasRenderer (document.kind left.id) →
      (document.kind entered.id).isBlock → renderer.hasRenderer (document.kind entered.id) →
      entered.before.writer.sink.limit = none →
      let writer := entered.before.writer
      let written := if (document.node entered.id).blankBefore then [writer.finishedLine []] else []
      entered.before = left.after ∧ writer.buffer = [] ∧
      ∃ own, IsOwn registrations (document.kind entered.id) own ∧
        renderer.dispatch scene entered.id .enter entered.before =
          own scene entered.id .enter { entered.before with
            writer := { writer with
              sink := { writer.sink with
                received := writer.sink.received ++ written.toArray }
              line := writer.line + written.length } } := by
  intro renderer scene log
  have hconfig : renderer.config = config := config_install (standard config) _
  have hwhole : (renderer.visit scene).IsLog { writer := .onto sink } log
      (document.walk (renderer.visit scene) id { writer := .onto sink }) := by
    have hvisits := isLog_visits renderer sink source document id
    rw [hconfig] at hvisits
    exact hvisits
  constructor
  · rintro left hmem hexit hblock hrenderer ⟨status, after, hvisit⟩
    obtain ⟨front, back, hlog⟩ := List.append_of_mem hmem
    obtain ⟨own, -, hfunction⟩ := exists_isOwn registrations hblock hrenderer
    rw [hlog] at hwhole
    have hreply : (renderer.visit scene).reply left = .ok status after := by
      rw [Visitor.reply, hexit, hvisit]
    rw [hwhole.after_eq hreply]
    exact buffer_of_visit hfunction hvisit
  · rintro left entered ⟨front, back, hpair⟩ hexit henter hprevious hleftBlock hleftRenderer hblock
      hrenderer hunlimited writer written
    have hlog : log = front ++ left :: entered :: back := by simp [← hpair]
    rw [hlog] at hwhole
    obtain ⟨hbefore, status, hvisit⟩ := hwhole.of_next rfl
    rw [Visitor.reply, hexit] at hvisit
    obtain ⟨other, -, hleft⟩ := exists_isOwn registrations hleftBlock hleftRenderer
    have hbuffer : entered.before.writer.buffer = [] := by
      rw [hbefore]
      exact buffer_of_visit hleft hvisit
    have hfree : entered.before.writer.Free :=
      ⟨by rw [hbefore]; exact (visit_eq_ok hvisit).2, hunlimited⟩
    obtain ⟨own, hown, hfunction⟩ := exists_isOwn registrations hblock hrenderer
    refine ⟨hbefore, hbuffer, own, hown, ?_⟩
    have hdispatch : renderer.dispatch scene entered.id .enter =
        asBlock own scene entered.id .enter := by
      simp only [dispatch, scene, renderer, hfunction]
    rw [hdispatch, asBlock_enter_apply]
    exact congrArg _ (RenderState.called_of_free hfree hbuffer (Option.isSome_of_eq_some hprevious))

/-- A word in place of the rule is set off, too. -/
theorem install_separates_wordThen :
    let renderer := (standard {}).install ⟨[(.thematicBreak, wordThen ['-', 'x'] .proceed)]⟩
    let log := renderer.visits .unlimited [] setOffRule Document.root
    ∃ left entered, [left, entered] <:+: log ∧ left.call = (1, .exit) ∧
      entered.call = (3, .enter) ∧ left.after.writer.buffer = [] ∧
      entered.before.writer.sink.received = #[Utf8.ofString "a\n"] ∧
      ∃ after, renderer.dispatch ⟨[], setOffRule, {}⟩ 3 .enter entered.before =
          .ok .proceed after ∧
        after.writer = ({ entered.before.writer with
          sink := { received := #[Utf8.ofString "a\n", Utf8.ofString "\n"] }
          line := entered.before.writer.line + 1 }).put (Utf8.encode ['-', 'x']) := by
  intro renderer log
  have hcalls : log.map (fun made => (made.call, made.before.writer.sink,
      made.before.writer.leads)) =
      [((0, .enter), .unlimited, []), ((1, .enter), .unlimited, []),
        ((2, .enter), .unlimited, []), ((2, .exit), .unlimited, [])] ++
      ((1, .exit), .unlimited, []) :: ((3, .enter), { received := #[Utf8.ofString "a\n"] }, []) ::
        (log.drop 6).map fun made => (made.call, made.before.writer.sink,
          made.before.writer.leads) := by
    decide +kernel
  obtain ⟨front, rest, hlog, -, hrest⟩ := List.map_eq_append_iff.mp hcalls
  obtain ⟨left, back, rfl, hleft, hback⟩ := List.map_eq_cons_iff.mp hrest
  obtain ⟨entered, back, rfl, hentered, -⟩ := List.map_eq_cons_iff.mp hback
  simp only [Visit.call, Prod.mk.injEq] at hleft hentered
  obtain ⟨⟨hleftId, hexit⟩, -, -⟩ := hleft
  obtain ⟨⟨hid, henter⟩, hsink, hleads⟩ := hentered
  have hpair : [left, entered] <:+: log := ⟨front, back, by simp [hlog]⟩
  obtain ⟨-, hseparates⟩ := install_separates {} [(.thematicBreak, wordThen ['-', 'x'] .proceed)]
    .unlimited [] setOffRule Document.root
  obtain ⟨hbefore, hbuffer, own, hown, hdispatch⟩ := hseparates left entered hpair hexit henter
    (by rw [hid, hleftId]; rfl) (by rw [hleftId]; rfl) (by rw [hleftId]; rfl) (by rw [hid]; rfl)
    (by rw [hid]; decide) (by rw [hsink])
  have hrule : setOffRule.kind entered.id = .thematicBreak := by
    rw [hid]
    decide
  rw [hrule] at hown
  obtain rfl : own = wordThen ['-', 'x'] .proceed := hown
  refine ⟨left, entered, hpair, by simp [Visit.call, hleftId, hexit],
    by simp [Visit.call, hid, henter], hbefore ▸ hbuffer, by rw [hsink], _,
    (hid ▸ hdispatch).trans rfl, ?_⟩
  have hempty : entered.before.writer.finishedLine [] = Utf8.ofString "\n" := by
    rw [LineWriter.finishedLine, LineWriter.currentLead, hleads]
    show trimmedLine [] ++ [newline] = Utf8.ofString "\n"
    decide +kernel
  have hset : (setOffRule.node 3).blankBefore = true := rfl
  simp only [hset, if_true, hempty, hsink]
  rfl

end Renderer

end MarkdownFormat
