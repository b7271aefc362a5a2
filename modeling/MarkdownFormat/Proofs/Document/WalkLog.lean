/-
# Walks with a log

A log of a walk tells what each visit found and what it left. A walk that keeps one is
the walk that it logs.
-/

import MarkdownFormat.Document.Walk

namespace MarkdownFormat

/-- One visit of a walk, with the states before and after it. -/
structure Visit (σ : Type) where
  id : NodeId
  phase : Phase
  before : σ
  after : σ

section Logged

variable {ε σ τ α β : Type}

/-- A visitor that keeps a log of its visits beside its state, also of one that fails. -/
def Visitor.logged (visit : Visitor ε σ) : Visitor ε (σ × List (Visit σ)) :=
  fun id phase (state, log) =>
    match visit id phase state with
    | .ok status after => .ok status (after, log ++ [⟨id, phase, state, after⟩])
    | .error fault after => .error fault (after, log ++ [⟨id, phase, state, after⟩])

/-- An outcome without what is kept beside the state. -/
def withoutLog : EStateM.Result ε (σ × τ) α → EStateM.Result ε σ α
  | .ok answer (state, _) => .ok answer state
  | .error fault (state, _) => .error fault state

/-- Beside what it keeps, an action is another one. -/
def Projects (action : EStateM ε (σ × τ) α) (plain : EStateM ε σ α) : Prop :=
  ∀ state kept, withoutLog (action (state, kept)) = plain state

/-- An answer has no log. -/
theorem Projects.pure (answer : α) :
    Projects (pure answer : EStateM ε (σ × τ) α) (pure answer) := fun _ _ => rfl

/-- Two actions that log log one after the other. -/
theorem Projects.bind {action : EStateM ε (σ × τ) α} {plain : EStateM ε σ α}
    {next : α → EStateM ε (σ × τ) β} {plainNext : α → EStateM ε σ β}
    (haction : Projects action plain) (hnext : ∀ answer, Projects (next answer) (plainNext answer)) :
    Projects (action >>= next) (plain >>= plainNext) := by
  intro state kept
  have hplain := haction state kept
  show withoutLog (EStateM.bind action next (state, kept)) = EStateM.bind plain plainNext state
  rw [EStateM.bind, EStateM.bind, ← hplain]
  cases action (state, kept) with
  | ok answer after => exact hnext answer after.1 after.2
  | error fault after => rfl

/-- A logged visit is the visit. -/
theorem Visitor.projects_logged (visit : Visitor ε σ) (id : NodeId) (phase : Phase) :
    Projects (visit.logged id phase) (visit id phase) := by
  intro state log
  rw [Visitor.logged]
  cases visit id phase state <;> rfl

namespace Document

/-- So are logged walks over several nodes. -/
theorem projects_walkEach {walkOne : NodeId → EStateM ε (σ × τ) WalkStatus}
    {plain : NodeId → EStateM ε σ WalkStatus} (hwalk : ∀ id, Projects (walkOne id) (plain id))
    (ids : List NodeId) : Projects (walkEach walkOne ids) (walkEach plain ids) := by
  induction ids with
  | nil => exact .pure _
  | cons id ids ih =>
      apply (hwalk id).bind
      intro status
      cases status with
      | stop => exact .pure _
      | proceed | skipChildren => exact ih

/-- So is leaving a node. -/
theorem projects_leave (visit : Visitor ε σ) (id : NodeId) :
    Projects (leave visit.logged id) (leave visit id) := by
  apply (visit.projects_logged id .exit).bind
  intro status
  cases status <;> exact .pure _

/-- A walk with a log is the walk that it logs. -/
theorem projects_walkTo_logged (doc : Document) (visit : Visitor ε σ) (depth : Nat)
    (id : NodeId) : Projects (doc.walkTo visit.logged depth id) (doc.walkTo visit depth id) := by
  induction depth generalizing id with
  | zero => exact .pure _
  | succ depth ih =>
      apply (visit.projects_logged id .enter).bind
      intro status
      cases status with
      | stop => exact .pure _
      | skipChildren => exact projects_leave visit id
      | proceed =>
          apply (projects_walkEach ih (doc.children id)).bind
          intro status
          cases status with
          | stop => exact .pure _
          | proceed | skipChildren => exact projects_leave visit id

end Document

/-- The action proceeds and adds some visits to the log. Of these and the state that it leaves,
something holds. -/
def Logs (action : EStateM ε (σ × List (Visit σ)) WalkStatus) (before : σ)
    (holds : σ → List (Visit σ) → Prop) : Prop :=
  ∀ log, ∃ after visits, action (before, log) = .ok .proceed (after, log ++ visits) ∧
    holds after visits

namespace Logs

variable {action : EStateM ε (σ × List (Visit σ)) WalkStatus}
  {next : WalkStatus → EStateM ε (σ × List (Visit σ)) WalkStatus} {visit : Visitor ε σ}
  {before inside after : σ} {holds inner : σ → List (Visit σ) → Prop}

/-- Where nothing is visited, the log stays empty. -/
theorem pure (hbefore : holds before []) :
    Logs (Pure.pure .proceed : EStateM ε (σ × List (Visit σ)) WalkStatus) before holds :=
  fun log => ⟨before, [], by rw [List.append_nil]; rfl, hbefore⟩

/-- The log of what follows goes behind that of what was first. -/
theorem bind (haction : Logs action before inner)
    (hnext : ∀ middle visits, inner middle visits →
      Logs (next .proceed) middle fun after later => holds after (visits ++ later)) :
    Logs (action >>= next) before holds := by
  intro log
  obtain ⟨middle, visits, hfirst, hinner⟩ := haction log
  obtain ⟨after, later, hlast, hafter⟩ := hnext middle visits hinner (log ++ visits)
  refine ⟨after, visits ++ later, ?_, hafter⟩
  show EStateM.bind action next (before, log) = _
  rw [EStateM.bind, hfirst, ← List.append_assoc]
  exact hlast

/-- What is logged does not depend on what is asked about it. -/
theorem and (hfirst : Logs action before holds) (hsecond : Logs action before inner) :
    Logs action before fun after visits => holds after visits ∧ inner after visits := by
  intro log
  obtain ⟨after, visits, hok, hholds⟩ := hfirst log
  obtain ⟨other, others, hsame, hinner⟩ := hsecond log
  rw [hok] at hsame
  obtain ⟨-, hsame⟩ := EStateM.Result.ok.inj hsame
  obtain ⟨rfl, hvisits⟩ := Prod.mk.inj hsame
  obtain rfl := List.append_cancel_left hvisits
  exact ⟨after, visits, hok, hholds, hinner⟩

/-- One visit makes one entry. -/
theorem logged {id : NodeId} {phase : Phase}
    (hvisit : visit id phase before = .ok .proceed after)
    (hafter : holds after [⟨id, phase, before, after⟩]) :
    Logs (visit.logged id phase) before holds :=
  fun log => ⟨after, _, by rw [Visitor.logged, hvisit], hafter⟩

/-- A walk logs that its node is entered, what is logged of the children, and that the node is
left. -/
theorem walkTo {doc : Document} {depth : Nat} {id : NodeId}
    (henter : visit id .enter before = .ok .proceed inside)
    (hchildren : Logs (Document.walkEach (doc.walkTo visit.logged depth) (doc.children id))
      inside inner)
    (hexit : ∀ middle visits, inner middle visits →
      ∃ after, visit id .exit middle = .ok .proceed after ∧
        holds after (⟨id, .enter, before, inside⟩ ::
          (visits ++ [⟨id, .exit, middle, after⟩]))) :
    Logs (doc.walkTo visit.logged (depth + 1) id) before holds := by
  have hentered : Logs (visit.logged id .enter) before
      fun after visits => after = inside ∧ visits = [⟨id, .enter, before, inside⟩] :=
    .logged henter ⟨rfl, rfl⟩
  apply hentered.bind
  rintro _ _ ⟨rfl, rfl⟩
  apply hchildren.bind
  intro middle visits hmiddle
  obtain ⟨after, hleave, hafter⟩ := hexit middle visits hmiddle
  have hleft : Logs (visit.logged id .exit) middle
      fun last added => last = after ∧ added = [⟨id, .exit, middle, after⟩] :=
    .logged hleave ⟨rfl, rfl⟩
  apply hleft.bind
  rintro _ _ ⟨rfl, rfl⟩
  exact .pure (by simpa using hafter)

end Logs

/-- Visits one after the other, at each of which the visitor proceeds, from one state to
another. -/
inductive Visitor.Passes (visit : Visitor ε σ) : σ → List (Visit σ) → σ → Prop
  | nil (state : σ) : visit.Passes state [] state
  | cons {id : NodeId} {phase : Phase} {before inside after : σ} {rest : List (Visit σ)} :
      visit id phase before = .ok .proceed inside → visit.Passes inside rest after →
      visit.Passes before (⟨id, phase, before, inside⟩ :: rest) after

namespace Visitor.Passes

variable {visit : Visitor ε σ} {before middle after : σ} {first second log : List (Visit σ)}

/-- A log can be parted anywhere. -/
theorem append_iff : visit.Passes before (first ++ second) after ↔
    ∃ middle, visit.Passes before first middle ∧ visit.Passes middle second after := by
  induction first generalizing before with
  | nil =>
      refine ⟨fun hsecond => ⟨before, .nil _, hsecond⟩, ?_⟩
      rintro ⟨_, ⟨⟩, hsecond⟩
      exact hsecond
  | cons made first ih =>
      constructor
      · rintro (_ | ⟨hvisit, hrest⟩)
        obtain ⟨middle, hfirst, hsecond⟩ := ih.mp hrest
        exact ⟨middle, .cons hvisit hfirst, hsecond⟩
      · rintro ⟨middle, _ | ⟨hvisit, hfirst⟩, hsecond⟩
        exact .cons hvisit (ih.mpr ⟨middle, hfirst, hsecond⟩)

/-- Each visit is in the state that the visits before it lead to, and the visits behind it go on
from the state that it leaves. -/
theorem visit_of_append {made : Visit σ}
    (hpasses : visit.Passes before (first ++ made :: second) after) :
    visit.Passes before first made.before ∧
      visit made.id made.phase made.before = .ok .proceed made.after ∧
      visit.Passes made.after second after := by
  obtain ⟨middle, hfirst, _ | ⟨hvisit, hsecond⟩⟩ := append_iff.mp hpasses
  exact ⟨hfirst, hvisit, hsecond⟩

/-- Each entry tells of a visit that was made. -/
theorem visit_of_mem {made : Visit σ} (hpasses : visit.Passes before log after)
    (hmem : made ∈ log) : visit made.id made.phase made.before = .ok .proceed made.after := by
  obtain ⟨first, second, rfl⟩ := List.append_of_mem hmem
  exact hpasses.visit_of_append.2.1

/-- What every visit keeps is kept by all of them together. -/
theorem keeps {holds : σ → Prop}
    (hvisit : ∀ {id phase before after}, visit id phase before = .ok .proceed after →
      holds before → holds after)
    (hpasses : visit.Passes before log after) (hbefore : holds before) : holds after := by
  induction hpasses with
  | nil => exact hbefore
  | cons hfirst _ ih => exact ih (hvisit hfirst hbefore)

end Visitor.Passes

end Logged

end MarkdownFormat
