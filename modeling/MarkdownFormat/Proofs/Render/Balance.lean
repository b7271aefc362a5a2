/-
# What leaving a node restores

A log of a walk tells what each visit found and what it left. With the built-in
functions, whatever stands in the document and whatever becomes of the sink, leaving a
node restores the leads and the number of open lists that entering it found. So no lead
and no list is ever missing, and a rendering that comes to its end has none left.
-/

import MarkdownFormat.Proofs.Document.WalkLog
import MarkdownFormat.Proofs.Render.Pairing

namespace MarkdownFormat

/-- Leads, open lists and code span are as before, except that a code span may have
ended. -/
structure RenderState.RestoredBy (before after : RenderState) : Prop where
  leads_eq : after.writer.leads = before.writer.leads
  resumes : before.Resumes after

namespace RenderState.RestoredBy

variable {before middle after : RenderState}

/-- A state restores itself. -/
theorem refl (state : RenderState) : state.RestoredBy state :=
  ⟨rfl, .refl state⟩

/-- What is restored may be restored again. -/
theorem trans (hfirst : before.RestoredBy middle) (hsecond : middle.RestoredBy after) :
    before.RestoredBy after :=
  ⟨hsecond.leads_eq.trans hfirst.leads_eq, hfirst.resumes.trans hsecond.resumes⟩

end RenderState.RestoredBy

/-- Whatever state a node is entered in, leaving it restores that state. -/
theorem Paired.exists_restored {visit : Phase → RenderM WalkStatus} (hpaired : Paired visit)
    (state : RenderState) :
    ∃ inside, visit .enter state = .ok .proceed inside ∧
      ∀ inner, inside.RestoredBy inner →
        ∃ after, visit .exit inner = .ok .proceed after ∧ state.RestoredBy after := by
  obtain ⟨opening, inside, leads, henter, hopening, hleave⟩ := hpaired state
  obtain ⟨entered, hentered⟩ := state.writer.exists_run?
    (Option.isSome_iff_exists.mpr ⟨_, hopening _⟩)
  -- Entering puts some leads on top of those that are there.
  obtain ⟨upper, hupper, hlength⟩ := LineWriter.exists_leads_run? (List.nil_append _).symm
    (hopening 0) hentered
  rw [Nat.zero_add] at hlength
  refine ⟨_, henter state.writer entered hentered, ?_⟩
  intro inner hinner
  obtain ⟨closing, after, hexit, hclosing, hafter⟩ :=
    hleave inner ⟨hinner.resumes.length_lists, hinner.resumes.codeSpan⟩
  have hleads : inner.writer.leads = upper ++ state.writer.leads := hinner.leads_eq.trans hupper
  obtain ⟨left, hleft⟩ := inner.writer.exists_run?
    (Option.isSome_iff_exists.mpr ⟨state.writer.leads.length, by
      rw [hleads, List.length_append, hlength, Nat.add_comm]
      exact hclosing _⟩)
  -- Leaving takes away just these.
  obtain ⟨rest, hrest, hnone⟩ := LineWriter.exists_leads_run? hleads
    (by rw [hlength, ← Nat.zero_add leads]; exact hclosing 0) hleft
  rw [List.length_eq_zero_iff.mp hnone, List.nil_append] at hrest
  exact ⟨_, hexit inner.writer left hleft, hrest, hafter.length_lists, hafter.codeSpan⟩

namespace Renderer

variable {renderer : Renderer} {scene : Scene}

/-- Asking for the fault of the sink touches nothing but the health of the writer. -/
theorem exists_checkSink (state : RenderState) : ∃ checked, state.RestoredBy checked ∧
    (checkSink state = .ok () checked ∨ ∃ fault, checkSink state = .error (.io fault) checked) := by
  cases hhealth : state.writer.health with
  | sound => exact ⟨state, .refl state, .inl (checkSink_of_sound hhealth)⟩
  | failed fault =>
      refine ⟨{ state with writer := { state.writer with health := .failed none } },
        ⟨rfl, rfl, .inl rfl⟩, .inr ⟨_, checkSink_of_health hhealth⟩⟩

/-- A visit leaves what its function does, or fails because the sink did. -/
theorem exists_visit {id : NodeId} {phase : Phase} {before after : RenderState}
    (hdispatch : renderer.dispatch scene id phase before = .ok .proceed after) :
    ∃ checked, after.RestoredBy checked ∧
      (renderer.visit scene id phase before = .ok .proceed checked ∨
        ∃ fault, renderer.visit scene id phase before = .error (.io fault) checked) := by
  have hvisit : renderer.visit scene id phase before =
      EStateM.bind checkSink (fun _ => EStateM.pure .proceed) after := by
    show EStateM.bind
      ((renderer.dispatch scene id phase).adaptExcept RenderFault.misuse) _ _ = _
    rw [EStateM.bind, EStateM.adaptExcept, hdispatch]
    rfl
  obtain ⟨checked, hchecked, hok | ⟨fault, herror⟩⟩ := exists_checkSink after
  · refine ⟨checked, hchecked, .inl ?_⟩
    rw [hvisit, EStateM.bind, hok]
    rfl
  · refine ⟨checked, hchecked, .inr ⟨fault, ?_⟩⟩
    rw [hvisit, EStateM.bind, herror]

end Renderer

/-- Whether leaving a node restores the leads and the number of open lists that entering
it found. -/
def Visit.Restores (left entered : Visit RenderState) : Prop :=
  left.id = entered.id ∧ left.after.writer.leads = entered.before.writer.leads ∧
    left.after.lists.length = entered.before.lists.length

/-- Whether leaving a node restores what entering it found can be decided. -/
instance (left entered : Visit RenderState) : Decidable (left.Restores entered) :=
  inferInstanceAs (Decidable (_ ∧ _))

/-- The visits that have entered a node not left yet, the innermost first, after one more
visit; `none` if that one leaves another node than the innermost, or does not restore what
was there when it was entered. -/
def openNext (opened : List (Visit RenderState)) (visit : Visit RenderState) :
    Option (List (Visit RenderState)) :=
  match visit.phase, opened with
  | .enter, opened => some (visit :: opened)
  | .exit, entered :: outer => if visit.Restores entered then some outer else none
  | .exit, [] => none

/-- The visits that have entered a node not left yet, after a log. -/
def openAfter (opened log : List (Visit RenderState)) : Option (List (Visit RenderState)) :=
  log.foldlM openNext opened

/-- Visits can be parted anywhere. -/
theorem openAfter_append (opened first second : List (Visit RenderState)) :
    openAfter opened (first ++ second) =
      (openAfter opened first).bind (openAfter · second) := by
  rw [openAfter, List.foldlM_append]
  rfl

/-- An action that works on a rendering and a log. -/
abbrev LoggedM :=
  EStateM RenderFault (RenderState × List (Visit RenderState))

/-- The action goes through or stops with a fault of the sink. The visits that it adds to
the log go on from the open ones, and if it goes through, what it leaves is as said. -/
def Orderly (action : LoggedM WalkStatus) (before : RenderState)
    (opened : List (Visit RenderState))
    (leaves : RenderState → List (Visit RenderState) → Prop) : Prop :=
  ∀ log,
    (∃ visits after left, action (before, log) = .ok .proceed (after, log ++ visits) ∧
      openAfter opened visits = some left ∧ leaves after left) ∨
    ∃ visits after fault, action (before, log) = .error (.io fault) (after, log ++ visits) ∧
      (openAfter opened visits).isSome

namespace Orderly

variable {before : RenderState} {opened : List (Visit RenderState)}
  {leaves last : RenderState → List (Visit RenderState) → Prop}

/-- Going on makes no visit. -/
theorem pure (hleaves : leaves before opened) : Orderly (pure .proceed) before opened leaves :=
  fun log => .inl ⟨[], before, opened, by rw [List.append_nil]; rfl, rfl, hleaves⟩

/-- What is known of the end may be weakened. -/
theorem mono {action : LoggedM WalkStatus} (haction : Orderly action before opened leaves)
    (hleaves : ∀ after left, leaves after left → last after left) :
    Orderly action before opened last := by
  intro log
  rcases haction log with ⟨visits, after, left, hok, hvisits, hafter⟩ | herror
  · exact .inl ⟨visits, after, left, hok, hvisits, hleaves after left hafter⟩
  · exact .inr herror

/-- What follows goes on with the nodes that are still open. -/
theorem bind {action : LoggedM WalkStatus} {next : WalkStatus → LoggedM WalkStatus}
    (haction : Orderly action before opened leaves)
    (hnext : ∀ after left, leaves after left → Orderly (next .proceed) after left last) :
    Orderly (action >>= next) before opened last := by
  intro log
  have hbind : (action >>= next) (before, log) = EStateM.bind action next (before, log) := rfl
  rw [hbind, EStateM.bind]
  rcases haction log with ⟨visits, middle, left, hok, hvisits, hmiddle⟩ |
    ⟨visits, middle, fault, herror, hvisits⟩
  · have hopen : ∀ later, openAfter opened (visits ++ later) = openAfter left later :=
      fun later => by rw [openAfter_append, hvisits, Option.bind_some]
    rw [hok]
    rcases hnext middle left hmiddle (log ++ visits) with ⟨later, after, rest, hlast, hlater⟩ |
      ⟨later, after, fault, hlast, hlater⟩
    · refine .inl ⟨visits ++ later, after, rest, ?_, by rwa [hopen]⟩
      rw [← List.append_assoc]
      exact hlast
    · refine .inr ⟨visits ++ later, after, fault, ?_, by rwa [hopen]⟩
      rw [← List.append_assoc]
      exact hlast
  · rw [herror]
    exact .inr ⟨visits, middle, fault, rfl, hvisits⟩

/-- The nodes are left one by one, each with everything restored. -/
theorem walkEach {walkOne : NodeId → LoggedM WalkStatus}
    (hwalk : ∀ id before, Orderly (walkOne id) before opened
      fun after left => before.RestoredBy after ∧ left = opened)
    (ids : List NodeId) (before : RenderState) :
    Orderly (Document.walkEach walkOne ids) before opened
      fun after left => before.RestoredBy after ∧ left = opened := by
  induction ids generalizing before with
  | nil => exact .pure ⟨.refl before, rfl⟩
  | cons id ids ih =>
      apply (hwalk id before).bind
      rintro middle _ ⟨hmiddle, rfl⟩
      exact (ih middle).mono fun after left hdone => ⟨hmiddle.trans hdone.1, hdone.2⟩

end Orderly

namespace Renderer

variable {renderer : Renderer} {scene : Scene}

/-- A visit of which the render function goes through. -/
theorem orderly_logged {id : NodeId} {phase : Phase} {before after : RenderState}
    {opened : List (Visit RenderState)}
    {leaves : RenderState → List (Visit RenderState) → Prop}
    (hdispatch : renderer.dispatch scene id phase before = .ok .proceed after)
    (hleaves : ∀ checked, after.RestoredBy checked → ∃ left,
      openNext opened ⟨id, phase, before, checked⟩ = some left ∧ leaves checked left) :
    Orderly ((renderer.visit scene).logged id phase) before opened leaves := by
  intro log
  obtain ⟨checked, hchecked, hvisit⟩ := exists_visit hdispatch
  obtain ⟨left, hopen, hleft⟩ := hleaves checked hchecked
  have hlog : openAfter opened [⟨id, phase, before, checked⟩] = some left := by
    rw [openAfter, List.foldlM_cons, hopen]
    rfl
  rcases hvisit with hok | ⟨fault, herror⟩
  · exact .inl ⟨_, checked, left, by rw [Visitor.logged, hok], hlog, hleft⟩
  · exact .inr ⟨_, checked, fault, by rw [Visitor.logged, herror], by rw [hlog]; rfl⟩

/-- So a walk below a node restores what was before and leaves no node open. -/
theorem orderly_walkTo (hpaired : ∀ id, Paired (renderer.dispatch scene id)) (depth : Nat)
    (id : NodeId) (before : RenderState) (opened : List (Visit RenderState)) :
    Orderly (scene.document.walkTo (renderer.visit scene).logged depth id) before opened
      fun after left => before.RestoredBy after ∧ left = opened := by
  induction depth generalizing id before opened with
  | zero => exact .pure ⟨.refl before, rfl⟩
  | succ depth ih =>
      obtain ⟨inside, henter, hleave⟩ := (hpaired id).exists_restored before
      have hentered : Orderly ((renderer.visit scene).logged id .enter) before opened
          fun after left => inside.RestoredBy after ∧
            left = ⟨id, .enter, before, after⟩ :: opened :=
        orderly_logged henter fun checked hchecked => ⟨_, rfl, hchecked, rfl⟩
      apply hentered.bind
      rintro entered _ ⟨hinside, rfl⟩
      apply (Orderly.walkEach (fun id before => ih id before _) (scene.document.children id)
        entered).bind
      rintro inner _ ⟨hinner, rfl⟩
      obtain ⟨after, hexit, hafter⟩ := hleave inner (hinside.trans hinner)
      have hleft : Orderly ((renderer.visit scene).logged id .exit) inner
          (⟨id, .enter, before, entered⟩ :: opened)
          fun after left => before.RestoredBy after ∧ left = opened := by
        apply orderly_logged hexit
        intro checked hchecked
        have hrestored := hafter.trans hchecked
        refine ⟨opened, if_pos ?_, hrestored, rfl⟩
        exact ⟨rfl, hrestored.leads_eq, hrestored.resumes.length_lists⟩
      exact hleft.bind fun after left hdone => .pure hdone

/-- The log of rendering the tree below a node. -/
def visits (renderer : Renderer) (sink : Sink) (source : Bytes) (document : Document)
    (id : NodeId) : List (Visit RenderState) :=
  match document.walk (renderer.visit ⟨source, document, renderer.config⟩).logged id
      ({ writer := LineWriter.onto sink }, []) with
  | .ok _ (_, log) => log
  | .error _ (_, log) => log

/-- The last line and the last check do not touch what is restored. -/
theorem exists_flushed (state : RenderState) :
    ∃ last, state.RestoredBy last ∧
      (checkSink { state with writer := state.writer.flushLine } = .ok () last ∨
        ∃ fault, checkSink { state with writer := state.writer.flushLine } =
          .error (.io fault) last) := by
  obtain ⟨last, hlast, hcheck⟩ :=
    exists_checkSink { state with writer := state.writer.flushLine }
  refine ⟨last, ⟨?_, hlast.resumes.length_lists, hlast.resumes.codeSpan⟩, hcheck⟩
  rw [hlast.leads_eq, LineWriter.leads_flushLine]

/-- With any configuration, of any document and into any sink, rendering never takes away
a lead or a list that is not there. Leaving a node restores the leads and the number of
open lists that entering it found, and a rendering that no fault cuts short leaves every
node that it enters, with no lead, no list and no code span left. -/
theorem renderNode_restores (config : Config) (strikethrough : Bool) (sink : Sink)
    (source : Bytes) (document : Document) (id : NodeId) :
    let renderer := forMarkdown config strikethrough
    let outcome := renderer.renderNode sink source document id
    let log := renderer.visits sink source document id
    (∀ misuse, outcome.1 ≠ some (.misuse misuse)) ∧
    (openAfter [] log).isSome ∧
    (outcome.1 = none → openAfter [] log = some [] ∧ outcome.2.writer.leads = [] ∧
      outcome.2.lists = [] ∧ outcome.2.codeSpan = none) := by
  intro renderer outcome log
  let scene : Scene := ⟨source, document, renderer.config⟩
  let start : RenderState := { writer := LineWriter.onto sink }
  have hplain := document.projects_walkTo_logged (renderer.visit scene) document.size id start []
  have houtcome : outcome = _ := renderNode_eq sink source document
  have hlog : log = _ := visits.eq_1 renderer sink source document id
  rw [Document.walk] at houtcome hlog
  rcases orderly_walkTo (paired_dispatch config strikethrough scene) document.size id start []
      [] with ⟨added, after, left, hwalk, hadded, hafter, rfl⟩ |
    ⟨added, after, fault, hwalk, hadded⟩
  · have hlog : log = added := by rw [hlog, hwalk]; rfl
    rw [hwalk] at hplain
    rw [← hplain] at houtcome
    have hopen : openAfter [] log = some [] := by rw [hlog, hadded]
    obtain ⟨last, hlast, hok | ⟨fault, herror⟩⟩ := exists_flushed after
    · have houtcome : outcome = (none, last) := by simp only [houtcome, withoutLog, hok]
      have hrestored := hafter.trans hlast
      rw [houtcome, hopen]
      refine ⟨nofun, rfl, fun _ => ⟨rfl, hrestored.leads_eq, ?_, ?_⟩⟩
      · exact List.length_eq_zero_iff.mp hrestored.resumes.length_lists
      · exact or_self_iff.mp hrestored.resumes.codeSpan
    · have houtcome : outcome = (some (.io fault), last) := by
        simp only [houtcome, withoutLog, herror]
      rw [houtcome, hopen]
      exact ⟨nofun, rfl, nofun⟩
  · have hlog : log = added := by rw [hlog, hwalk]; rfl
    rw [hwalk] at hplain
    rw [← hplain] at houtcome
    have houtcome : outcome = (some (.io fault), after) := houtcome
    rw [houtcome, hlog]
    exact ⟨nofun, hadded, nofun⟩

end Renderer

end MarkdownFormat
