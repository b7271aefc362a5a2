/-
# The order of a log

Whatever the visitor answers and however the links of the document run, the log of a walk is in
order. Each visit starts in the state that the one before it leaves, a node whose children are
to be skipped is left next, and nothing follows a visit at which the visitor stops or fails.
-/

import MarkdownFormat.Proofs.Document.Tour

namespace MarkdownFormat

variable {ε σ : Type}

namespace Visitor

variable {visit : Visitor ε σ}

/-- What follows a visit in the log follows it in the tour, up to the end. Before it the visitor
goes on, and nothing follows the visit that ends the walk. -/
theorem exists_of_untilEnd_eq {tour front back : List (Visit σ)} {made : Visit σ}
    (hlog : visit.untilEnd tour = front ++ made :: back) :
    ∃ later, tour = front ++ made :: later ∧ front.find? visit.ends = none ∧
      back = if visit.ends made then [] else visit.untilEnd later := by
  induction tour generalizing front with
  | nil => exact absurd hlog.symm (List.append_ne_nil_of_right_ne_nil _ (List.cons_ne_nil _ _))
  | cons first rest ih =>
      rw [untilEnd] at hlog
      cases front with
      | nil =>
          split at hlog
          · next hends =>
              obtain ⟨rfl, rfl⟩ := List.cons.inj hlog
              exact ⟨rest, rfl, rfl, by rw [if_pos hends]⟩
          · next hgoes =>
              obtain ⟨rfl, rfl⟩ := List.cons.inj hlog
              exact ⟨rest, rfl, rfl, by rw [if_neg hgoes]⟩
      | cons other front =>
          split at hlog
          · obtain ⟨-, hnone⟩ := List.cons.inj hlog
            exact absurd hnone.symm (List.append_ne_nil_of_right_ne_nil _ (List.cons_ne_nil _ _))
          · next hgoes =>
              obtain ⟨rfl, hrest⟩ := List.cons.inj hlog
              obtain ⟨later, rfl, hfront, hback⟩ := ih hrest
              exact ⟨later, rfl, by rw [List.find?_cons_of_neg hgoes, hfront], hback⟩

/-- The answer at a visit that ends the walk is the result of the walk. -/
theorem ending_of_untilEnd_eq {tour front back : List (Visit σ)} {made : Visit σ} {final : σ}
    (hlog : visit.untilEnd tour = front ++ made :: back) (hends : visit.ends made) :
    visit.ending tour final = visit.reply made := by
  obtain ⟨later, rfl, hfront, -⟩ := exists_of_untilEnd_eq hlog
  rw [ending_append_of_none hfront, ending, List.find?_cons_of_pos hends]

/-- Visits one after the other, whatever the visitor answers, from one state to another. -/
inductive InTurn (visit : Visitor ε σ) : σ → List (Visit σ) → σ → Prop
  | nil (state : σ) : InTurn visit state [] state
  | cons {id : NodeId} {phase : Phase} {before after : σ} {rest : List (Visit σ)}
      (hrest : InTurn visit (visit.visitAt id phase before).after rest after) :
      InTurn visit before (visit.visitAt id phase before :: rest) after

namespace InTurn

variable {before middle after : σ} {first second : List (Visit σ)} {made : Visit σ}

/-- Visits come one after the other. -/
theorem append (hfirst : visit.InTurn before first middle)
    (hsecond : visit.InTurn middle second after) :
    visit.InTurn before (first ++ second) after := by
  induction hfirst with
  | nil => exact hsecond
  | cons _ ih => exact .cons (ih hsecond)

/-- The visits behind another one go on from the state that it leaves. -/
theorem of_append (hturn : visit.InTurn before (first ++ second) after) :
    ∃ middle, visit.InTurn middle second after := by
  induction first generalizing before with
  | nil => exact ⟨before, hturn⟩
  | cons made first ih =>
      cases hturn with
      | cons hrest => exact ih hrest

/-- Each visit in turn is what the visitor does there. -/
theorem eq_visitAt (hturn : visit.InTurn before (first ++ made :: second) after) :
    made = visit.visitAt made.id made.phase made.before := by
  obtain ⟨middle, hmade⟩ := hturn.of_append
  cases hmade with
  | cons => rfl

/-- Each visit starts where the one before ended. -/
theorem before_eq {next : Visit σ}
    (hturn : visit.InTurn before (first ++ made :: next :: second) after) :
    next.before = made.after := by
  obtain ⟨middle, hmade⟩ := hturn.of_append
  cases hmade with
  | cons hnext =>
      cases hnext with
      | cons => rfl

end InTurn

/-- Visits to nodes that are entered and left again, with nothing in between if the children are
to be skipped. -/
inductive Nests (visit : Visitor ε σ) : List (Visit σ) → Prop
  | nil : Nests visit []
  | node {entered left : Visit σ} {inner rest : List (Visit σ)} (henter : entered.phase = .enter)
      (hleft : left.id = entered.id ∧ left.phase = .exit)
      (hskips : visit.skips entered → inner = []) (hinner : Nests visit inner)
      (hrest : Nests visit rest) : Nests visit (entered :: (inner ++ left :: rest))

namespace Nests

variable {first second back log : List (Visit σ)} {entered : Visit σ}

/-- Visits that leave what they enter do so together. -/
theorem append (hfirst : visit.Nests first) (hsecond : visit.Nests second) :
    visit.Nests (first ++ second) := by
  induction hfirst with
  | nil => exact hsecond
  | @node entered left inner rest henter hleft hskips hinner _ _ ih =>
      have hwhole := Nests.node henter hleft hskips hinner ih
      simpa using hwhole

/-- A node whose children are to be skipped is left next. -/
theorem exists_left (hnests : visit.Nests log) (hlog : log = first ++ entered :: back)
    (henter : entered.phase = .enter) (hskips : visit.skips entered) :
    ∃ left rest, back = left :: rest ∧ left.id = entered.id ∧ left.phase = .exit := by
  induction hnests generalizing first back with
  | nil => exact absurd hlog.symm (List.append_ne_nil_of_right_ne_nil _ (List.cons_ne_nil _ _))
  | @node other left inner rest _ hleft hother hinner hrest ihInner ihRest =>
      cases first with
      | nil =>
          obtain ⟨rfl, rfl⟩ := List.cons.inj hlog
          rw [hother hskips]
          exact ⟨left, rest, rfl, hleft⟩
      | cons _ first =>
          obtain ⟨-, hlog⟩ := List.cons.inj hlog
          -- The node stands further down, or behind the node that is left.
          rcases List.append_eq_append_iff.mp hlog with ⟨middle, rfl, hsplit⟩ |
            ⟨middle, rfl, hsplit⟩
          · cases middle with
            | nil =>
                have hexit := (List.cons.inj hsplit).1 ▸ hleft.2
                rw [henter] at hexit
                cases hexit
            | cons _ middle => exact ihRest (List.cons.inj hsplit).2
          · cases middle with
            | nil =>
                have hexit := (List.cons.inj hsplit).1 ▸ hleft.2
                rw [henter] at hexit
                cases hexit
            | cons _ middle =>
                obtain ⟨rfl, rfl⟩ := List.cons.inj hsplit
                obtain ⟨next, after, rfl, hnext⟩ := ihInner rfl
                exact ⟨next, after ++ left :: rest, by simp, hnext⟩

end Nests

/-- The log of a walk, and how the walk comes out: visits in order, up to the first one at which
the visitor stops or fails. -/
def IsLog (visit : Visitor ε σ) (state : σ) (log : List (Visit σ))
    (outcome : EStateM.Result ε σ WalkStatus) : Prop :=
  ∃ tour final, visit.InTurn state tour final ∧ visit.Nests tour ∧ log = visit.untilEnd tour ∧
    outcome = visit.ending tour final

namespace IsLog

variable {state : σ} {front back : List (Visit σ)} {made : Visit σ}
  {outcome : EStateM.Result ε σ WalkStatus}
  (hlog : visit.IsLog state (front ++ made :: back) outcome)
include hlog

/-- Behind a visit there is what comes later in order, unless the visit ends the walk. -/
theorem exists_later :
    ∃ later final, visit.InTurn state (front ++ made :: later) final ∧
      visit.Nests (front ++ made :: later) ∧
      (back = if visit.ends made then [] else visit.untilEnd later) ∧
      (visit.ends made → outcome = visit.reply made) := by
  obtain ⟨tour, final, hturn, hnests, hmade, houtcome⟩ := hlog
  obtain ⟨later, rfl, -, hback⟩ := exists_of_untilEnd_eq hmade.symm
  exact ⟨later, final, hturn, hnests, hback,
    fun hends => houtcome.trans (ending_of_untilEnd_eq hmade.symm hends)⟩

/-- The log has what a visit leaves. -/
theorem after_eq {status : WalkStatus} {after : σ} (hvisit : visit.reply made = .ok status after) :
    made.after = after := by
  obtain ⟨later, final, hturn, -⟩ := hlog.exists_later
  rw [hturn.eq_visitAt, after_visitAt hvisit]

/-- Nothing follows a visit that stops or fails, and the walk comes out as that visit does. -/
theorem of_ends (hends : visit.ends made) : back = [] ∧ outcome = visit.reply made := by
  obtain ⟨later, final, -, -, hback, houtcome⟩ := hlog.exists_later
  rw [if_pos hends] at hback
  exact ⟨hback, houtcome hends⟩

/-- A visit that another one follows goes through, and that one starts in the state it leaves. -/
theorem of_next {next : Visit σ} {rest : List (Visit σ)} (hnext : back = next :: rest) :
    next.before = made.after ∧ ∃ status, visit.reply made = .ok status made.after := by
  obtain ⟨later, final, hturn, -, hback, -⟩ := hlog.exists_later
  have hgoes : ¬ visit.ends made := by
    intro hends
    rw [if_pos hends, hnext] at hback
    cases hback
  constructor
  · rw [if_neg hgoes, hnext, ← List.nil_append (next :: rest)] at hback
    obtain ⟨later, rfl, -, -⟩ := exists_of_untilEnd_eq hback.symm
    exact hturn.before_eq
  · cases hreply : visit.reply made with
    | ok status after => exact ⟨status, by rw [hlog.after_eq hreply]⟩
    | error fault stopped =>
        rw [ends, hreply] at hgoes
        exact absurd rfl hgoes

/-- A node whose children are to be skipped is left next. -/
theorem exists_left_of_skips (henter : made.phase = .enter) (hskips : visit.skips made) :
    ∃ left rest, back = left :: rest ∧ left.id = made.id ∧ left.phase = .exit := by
  obtain ⟨later, final, -, hnests, hback, -⟩ := hlog.exists_later
  obtain ⟨left, rest, rfl, hleft⟩ := hnests.exists_left rfl henter hskips
  have hgoes : ¬ visit.ends made := by
    rw [skips] at hskips
    rw [ends]
    split at hskips <;> simp_all
  rw [if_neg hgoes, untilEnd] at hback
  split at hback
  · exact ⟨left, [], hback, hleft⟩
  · exact ⟨left, _, hback, hleft⟩

end IsLog

end Visitor

namespace Document

variable {doc : Document} {visit : Visitor ε σ}

/-- The answer to a walk does not depend on whether there is a log. -/
theorem Makes.walkTo_eq {depth : Nat} {id : NodeId} {state final : σ} {tour : List (Visit σ)}
    (hmakes : Makes visit (doc.walkTo visit.logged depth id) state tour final) :
    doc.walkTo visit depth id state = visit.ending tour final := by
  rw [← projects_walkTo_logged doc visit depth id state []]
  exact (congrArg withoutLog (hmakes [])).trans (withoutLog_withLog _ _)

/-- A walk makes visits in order, up to the first one at which the visitor stops or fails. -/
theorem exists_makes_walkTo (doc : Document) (visit : Visitor ε σ) (depth : Nat) (id : NodeId)
    (state : σ) :
    ∃ tour final, (visit.InTurn state tour final ∧ visit.Nests tour) ∧
      Makes visit (doc.walkTo visit.logged depth id) state tour final := by
  -- Between entering and leaving a node without children there is nothing.
  let holds : List NodeId → σ → List (Visit σ) → σ → Prop := fun ids state tour final =>
    (ids = [] → tour = []) ∧ visit.InTurn state tour final ∧ visit.Nests tour
  have hone : ∀ depth id state, ∃ tour final, holds [id] state tour final ∧
      Makes visit (doc.walkTo visit.logged depth id) state tour final := by
    intro depth
    induction depth with
    | zero => exact fun id state => ⟨[], state, ⟨nofun, .nil state, .nil⟩, .pure state⟩
    | succ depth ih =>
        intro id state
        refine exists_makes_walkTo_succ (fun state => ⟨fun _ => rfl, .nil state, .nil⟩) ?_ ?_
          (fun child _ => ih child) state
        · rintro first ids before middle final visits rest ⟨-, hturn, hnests⟩ ⟨-, hlater, hbehind⟩
          exact ⟨nofun, hturn.append hlater, hnests.append hbehind⟩
        · rintro node before middle inner ⟨hempty, hturn, hnests⟩
          refine ⟨nofun, .cons (hturn.append (.cons (.nil _))), .node rfl ⟨rfl, rfl⟩ ?_ hnests .nil⟩
          exact fun hskips => hempty (if_pos hskips)
  obtain ⟨tour, final, ⟨-, hordered⟩, hmakes⟩ := hone depth id state
  exact ⟨tour, final, hordered, hmakes⟩

end Document

end MarkdownFormat
