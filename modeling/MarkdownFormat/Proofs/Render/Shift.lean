/-
# Rendering behind earlier output

A rendering does not depend on what was rendered before: behind earlier lines and warnings
it gives the same lines and warnings. That holds of the few actions that render functions
are made of, and so of whole walks.
-/

import MarkdownFormat.Proofs.Render.Routine
import MarkdownFormat.Proofs.Writer.Shift

namespace MarkdownFormat

/-- The state with earlier lines and warnings in front. -/
def RenderState.after (state : RenderState) (earlier : Array Bytes) (warned : Array Warning) :
    RenderState :=
  { state with
    writer := state.writer.after earlier
    warnings := warned ++ state.warnings }

/-- The outcome with its state changed. -/
def changeState {ε σ α : Type} (change : σ → σ) : EStateM.Result ε σ α → EStateM.Result ε σ α
  | .ok answer state => .ok answer (change state)
  | .error fault state => .error fault (change state)

/-- It makes no difference whether the state is changed before or after the action. -/
def Commutes {ε σ α : Type} (change : σ → σ) (action : EStateM ε σ α) : Prop :=
  ∀ state, action (change state) = changeState change (action state)

namespace Commutes

variable {ε σ α β : Type} {change : σ → σ}

/-- An answer does not depend on what was before. -/
theorem pure (answer : α) : Commutes change (pure answer : EStateM ε σ α) := fun _ => rfl

/-- Two actions that commute with a change do so one after the other. -/
theorem bind {action : EStateM ε σ α} {next : α → EStateM ε σ β}
    (haction : Commutes change action) (hnext : ∀ answer, Commutes change (next answer)) :
    Commutes change (action >>= next) := by
  intro state
  show EStateM.bind action next (change state) = changeState change (EStateM.bind action next state)
  rw [EStateM.bind, EStateM.bind, haction state]
  cases action state with
  | ok answer middle => exact hnext answer middle
  | error fault stopped => rfl

/-- How a failure is told does not matter. -/
theorem adaptExcept {ε' : Type} {action : EStateM ε σ α} (haction : Commutes change action)
    (adapt : ε → ε') : Commutes change (action.adaptExcept adapt) := by
  intro state
  rw [EStateM.adaptExcept, EStateM.adaptExcept, haction state]
  cases action state <;> rfl

/-- What the action comes to in the changed state is the change of what it comes to. -/
theorem exists_of_ok {action : EStateM ε σ α} (haction : Commutes change action) {state last : σ}
    {answer : α} (hlast : action (change state) = .ok answer last) :
    ∃ after, action state = .ok answer after ∧ last = change after := by
  rw [haction state] at hlast
  cases hstate : action state with
  | ok first after =>
      rw [hstate] at hlast
      cases hlast
      exact ⟨after, rfl, rfl⟩
  | error fault stopped =>
      rw [hstate] at hlast
      cases hlast

end Commutes

section Behind

variable (earlier : Array Bytes) (warned : Array Warning)

/-- What render functions do behind earlier output is what they do without. -/
theorem Routine.commutes {allowed : Bytes → Prop} {α : Type} {action : RenderM α}
    (hroutine : Routine allowed action) :
    Commutes (fun state => state.after earlier warned) action := by
  have hwarn : ∀ warning,
      Commutes (fun state => state.after earlier warned) (RenderM.warn warning) := by
    intro warning state
    exact congrArg
      (fun warnings => EStateM.Result.ok () { state.after earlier warned with warnings })
      Array.push_append
  induction hroutine with
  | pure answer => exact .pure answer
  | bind _ _ haction hnext => exact .bind haction hnext
  | @put bytes _ =>
      intro state
      exact congrArg (fun writer => EStateM.Result.ok () { state.after earlier warned with writer })
        (state.writer.put_after earlier bytes)
  | endLine =>
      intro state
      exact congrArg (fun writer => EStateM.Result.ok () { state.after earlier warned with writer })
        (state.writer.put_after earlier [newline])
  | flushLine =>
      intro state
      exact congrArg (fun writer => EStateM.Result.ok () { state.after earlier warned with writer })
        (state.writer.flushLine_after earlier)
  | @pushLead bytes _ lines =>
      intro state
      exact congrArg (fun writer => EStateM.Result.ok () { state.after earlier warned with writer })
        (state.writer.pushLead_after earlier bytes lines)
  | popLead =>
      intro state
      have hpop : (state.after earlier warned).writer.popLead? =
          state.writer.popLead?.map (·.after earlier) := state.writer.popLead?_after earlier
      rw [RenderM.popLead, get_bind_apply, get_bind_apply, hpop]
      cases state.writer.popLead? <;> rfl
  | pushList frame => exact fun _ => rfl
  | popList =>
      intro state
      have hlists : (state.after earlier warned).lists = state.lists := rfl
      rw [RenderM.popList, get_bind_apply, get_bind_apply, hlists]
      cases state.lists <;> rfl
  | itemMarker =>
      intro state
      have hlists : (state.after earlier warned).lists = state.lists := rfl
      rw [Render.itemMarker, get_bind_apply, get_bind_apply, hlists]
      cases state.lists with
      | cons frame lists => rfl
      | nil => exact (hwarn .itemOutsideList).bind (fun _ => .pure ['-']) state
  | setCodeSpan codeSpan => exact fun _ => rfl
  | look _ hnext => exact fun state => hnext state.codeSpan state
  | warn warning => exact hwarn warning

/-- Asking for a failure does not depend on earlier output. -/
theorem Renderer.commutes_checkSink :
    Commutes (fun state => state.after earlier warned) checkSink := by
  intro state
  have hcheck : (state.after earlier warned).writer.check =
      state.writer.check.map id (·.after earlier) := state.writer.check_after earlier
  rw [checkSink, get_bind_apply, get_bind_apply, hcheck]
  cases state.writer.check with
  | mk result writer => cases result <;> rfl

/-- Nor does a visit. -/
theorem Renderer.commutes_visit (config : Config) (strikethrough : Bool) (scene : Scene)
    (id : NodeId) (phase : Phase) :
    Commutes (fun state => state.after earlier warned)
      ((forMarkdown config strikethrough).visit scene id phase) := by
  have hdispatch : Routine (fun _ => True)
      ((forMarkdown config strikethrough).dispatch scene id phase) :=
    .dispatch admissible_any config strikethrough fun _ _ => trivial
  exact ((hdispatch.commutes earlier warned).adaptExcept .misuse).bind fun status =>
    (commutes_checkSink earlier warned).bind fun _ => .pure status

/-- A walk with the built-in functions goes on behind earlier output as it would without. -/
theorem Renderer.commutes_walkTo (config : Config) (strikethrough : Bool) (scene : Scene)
    (depth : Nat) (id : NodeId) :
    Commutes (fun state => state.after earlier warned)
      (scene.document.walkTo ((forMarkdown config strikethrough).visit scene) depth id) :=
  Document.walkTo_of_closed .pure .bind (commutes_visit earlier warned config strikethrough scene)
    depth id

end Behind

end MarkdownFormat
