/-
# The tour of a walk

A tour enters a node, makes the tours of its children in their order, unless the visitor
answers to skip them, and leaves the node. It goes on whatever the visitor answers. In a
well-formed document a walk makes the visits of this tour up to the first one that stops
or fails, and the answer at that visit is the result of the walk.
-/

import MarkdownFormat.Proofs.Document.Traversal
import MarkdownFormat.Proofs.Document.WalkLog

namespace MarkdownFormat

variable {ε σ : Type}

/-- The node and the phase of a visit. -/
def Visit.call (made : Visit σ) : NodeId × Phase :=
  (made.id, made.phase)

/-- An outcome with something kept beside the state. -/
def withLog {τ α : Type} (kept : τ) : EStateM.Result ε σ α → EStateM.Result ε (σ × τ) α
  | .ok answer state => .ok answer (state, kept)
  | .error fault state => .error fault (state, kept)

/-- A log can be taken away again. -/
theorem withoutLog_withLog {τ α : Type} (kept : τ) (outcome : EStateM.Result ε σ α) :
    withoutLog (withLog kept outcome) = outcome := by
  cases outcome <;> rfl

namespace Visitor

variable (visit : Visitor ε σ)

/-- A visit in a given state. -/
def visitAt (id : NodeId) (phase : Phase) (state : σ) : Visit σ :=
  { id, phase, before := state,
    after := match visit id phase state with
      | .ok _ after | .error _ after => after }

/-- What the visitor answers at a visit. -/
def reply (made : Visit σ) : EStateM.Result ε σ WalkStatus :=
  visit made.id made.phase made.before

/-- Whether the visitor answers to skip the children. -/
def skips (made : Visit σ) : Bool :=
  match visit.reply made with
  | .ok .skipChildren _ => true
  | _ => false

/-- Whether the visitor stops or fails at a visit. -/
def ends (made : Visit σ) : Bool :=
  match visit.reply made with
  | .ok .stop _ | .error _ _ => true
  | _ => false

/-- The visits up to the first one at which the visitor stops or fails, with that one. -/
def untilEnd : List (Visit σ) → List (Visit σ)
  | [] => []
  | made :: rest => if visit.ends made then [made] else made :: untilEnd rest

/-- The answer at the first visit at which the visitor stops or fails; if there is none,
the visitor goes on after the last visit. -/
def ending (tour : List (Visit σ)) (final : σ) : EStateM.Result ε σ WalkStatus :=
  match tour.find? visit.ends with
  | some last => visit.reply last
  | none => .ok .proceed final

variable {visit} {first second : List (Visit σ)} {final : σ}

/-- A logged visit adds what the visit finds and leaves, also where it fails. -/
theorem logged_eq (id : NodeId) (phase : Phase) (state : σ) (log : List (Visit σ)) :
    visit.logged id phase (state, log) =
      withLog (log ++ [visit.visitAt id phase state]) (visit id phase state) := by
  rw [logged, visitAt]
  cases visit id phase state <;> rfl

/-- A visit that succeeds leaves what it answers with. -/
theorem after_visitAt {id : NodeId} {phase : Phase} {state after : σ} {status : WalkStatus}
    (hvisit : visit id phase state = .ok status after) :
    (visit.visitAt id phase state).after = after := by
  rw [visitAt, hvisit]

/-- A tour that nothing ends is made as a whole. -/
theorem untilEnd_append_of_none (hgoes : first.find? visit.ends = none) :
    visit.untilEnd (first ++ second) = first ++ visit.untilEnd second := by
  induction first with
  | nil => rfl
  | cons made rest ih =>
      have hmade : ¬ visit.ends made := List.find?_eq_none.mp hgoes made List.mem_cons_self
      rw [List.find?_cons_of_neg hmade] at hgoes
      simp only [List.cons_append, untilEnd, hmade, ih hgoes]
      rfl

/-- Behind a visit that ends a tour nothing is visited. -/
theorem untilEnd_append_of_some {last : Visit σ} (hends : first.find? visit.ends = some last) :
    visit.untilEnd (first ++ second) = visit.untilEnd first := by
  induction first with
  | nil => cases hends
  | cons made rest ih =>
      by_cases hmade : visit.ends made
      · simp only [List.cons_append, untilEnd, hmade, if_true]
      · rw [List.find?_cons_of_neg hmade] at hends
        simp only [List.cons_append, untilEnd, hmade, ih hends]

/-- So all of it is made. -/
theorem untilEnd_of_none (hgoes : first.find? visit.ends = none) : visit.untilEnd first = first := by
  have hall : visit.untilEnd (first ++ []) = first ++ visit.untilEnd [] :=
    untilEnd_append_of_none hgoes
  rwa [List.append_nil, untilEnd, List.append_nil] at hall

/-- Its end is that of what follows. -/
theorem ending_append_of_none (hgoes : first.find? visit.ends = none) :
    visit.ending (first ++ second) final = visit.ending second final := by
  rw [ending, ending, List.find?_append, hgoes, Option.none_or]

/-- The end of a tour is the answer at the visit that ends it. -/
theorem ending_append_of_some {last : Visit σ} (hends : first.find? visit.ends = some last) :
    visit.ending (first ++ second) final = visit.reply last := by
  rw [ending, List.find?_append, hends, Option.some_or]

/-- Skipping children ends no tour. -/
theorem ending_ne_skipChildren (tour : List (Visit σ)) (final after : σ) :
    visit.ending tour final ≠ .ok .skipChildren after := by
  rw [ending]
  cases hfind : tour.find? visit.ends with
  | none => nofun
  | some last =>
      intro (hreply : visit.reply last = _)
      have hends : visit.ends last := List.find?_some hfind
      rw [ends, hreply] at hends
      cases hends

variable (visit) in
/-- The visitor never stops, never fails and never skips anything. -/
def Proceeds : Prop :=
  ∀ id phase state, ∃ after, visit id phase state = .ok .proceed after

/-- A visitor that always proceeds skips nothing. -/
theorem Proceeds.skips_eq_false (hproceeds : visit.Proceeds) (made : Visit σ) :
    visit.skips made = false := by
  obtain ⟨after, hvisit⟩ := hproceeds made.id made.phase made.before
  rw [skips, reply, hvisit]

/-- Nor does it end a tour. -/
theorem Proceeds.find?_eq_none (hproceeds : visit.Proceeds) (tour : List (Visit σ)) :
    tour.find? visit.ends = none := by
  apply List.find?_eq_none.mpr
  intro made _
  obtain ⟨after, hvisit⟩ := hproceeds made.id made.phase made.before
  simp [ends, reply, hvisit]

end Visitor

namespace Document

/-- The tours of some nodes, one after the other, from one state to another. -/
inductive IsTour (doc : Document) (visit : Visitor ε σ) :
    List NodeId → σ → List (Visit σ) → σ → Prop
  | nil {state : σ} : IsTour doc visit [] state [] state
  /-- A node is entered, then come its children, if they are not to be skipped, then it is
  left. -/
  | cons {id : NodeId} {ids : List NodeId} {state middle final : σ} {inner rest : List (Visit σ)} :
      IsTour doc visit
        (if visit.skips (visit.visitAt id .enter state) then [] else doc.children id)
        (visit.visitAt id .enter state).after inner middle →
      IsTour doc visit ids (visit.visitAt id .exit middle).after rest final →
      IsTour doc visit (id :: ids) state
        (visit.visitAt id .enter state :: inner ++ visit.visitAt id .exit middle :: rest) final

variable {doc : Document} {visit : Visitor ε σ}

/-- The tour of a node goes before those of the nodes behind it. -/
theorem IsTour.append {id : NodeId} {ids : List NodeId} {state middle final : σ}
    {first rest : List (Visit σ)} (hfirst : doc.IsTour visit [id] state first middle)
    (hrest : doc.IsTour visit ids middle rest final) :
    doc.IsTour visit (id :: ids) state (first ++ rest) final := by
  cases hfirst with
  | cons hinner hnil =>
      cases hnil
      simpa using IsTour.cons hinner hrest

/-- There is only one tour. -/
theorem IsTour.unique {ids : List NodeId} {state final last : σ} {tour other : List (Visit σ)}
    (htour : doc.IsTour visit ids state tour final)
    (hother : doc.IsTour visit ids state other last) : other = tour ∧ last = final := by
  induction htour generalizing other last with
  | nil =>
      cases hother
      exact ⟨rfl, rfl⟩
  | cons hinner hrest ihInner ihRest =>
      cases hother with
      | cons hotherInner hotherRest =>
          obtain ⟨rfl, rfl⟩ := ihInner hotherInner
          obtain ⟨rfl, rfl⟩ := ihRest hotherRest
          exact ⟨rfl, rfl⟩

/-- From a state the action makes the visits up to the first one at which the visitor
stops or fails, and has the answer at that one. -/
def Makes (visit : Visitor ε σ) (action : EStateM ε (σ × List (Visit σ)) WalkStatus) (state : σ)
    (tour : List (Visit σ)) (final : σ) : Prop :=
  ∀ log, action (state, log) = withLog (log ++ visit.untilEnd tour) (visit.ending tour final)

namespace Makes

variable {state middle final : σ} {first second : List (Visit σ)}

/-- Going on makes no visit. -/
theorem pure (state : σ) : Makes visit (pure .proceed) state [] state := by
  intro log
  rw [Visitor.untilEnd, List.append_nil]
  rfl

/-- What follows is made unless the first part ends. -/
theorem bind {action : EStateM ε (σ × List (Visit σ)) WalkStatus}
    {next : WalkStatus → EStateM ε (σ × List (Visit σ)) WalkStatus}
    (hfirst : Makes visit action state first middle) (hstop : next .stop = Pure.pure .stop)
    (hsecond : Makes visit (next .proceed) middle second final) :
    Makes visit (action >>= next) state (first ++ second) final := by
  intro log
  show EStateM.bind action next (state, log) = _
  rw [EStateM.bind, hfirst log, Visitor.ending]
  cases hfind : first.find? visit.ends with
  | none =>
      rw [Visitor.untilEnd_append_of_none hfind, Visitor.ending_append_of_none hfind]
      -- No visit has ended, so all of them are in the log.
      rw [Visitor.untilEnd_of_none hfind, ← List.append_assoc]
      exact hsecond (log ++ first)
  | some last =>
      rw [Visitor.untilEnd_append_of_some hfind, Visitor.ending_append_of_some hfind]
      have hends : visit.ends last = true := List.find?_some hfind
      rw [Visitor.ends] at hends
      simp only [withLog]
      cases hreply : visit.reply last with
      | ok status after =>
          rw [hreply] at hends
          cases status with
          | stop =>
              simp only [hstop]
              rfl
          | proceed | skipChildren => cases hends
      | error fault after => rfl

/-- A visit first, then what the answer to it asks for. -/
theorem call {id : NodeId} {phase : Phase} {tour : List (Visit σ)}
    {next : WalkStatus → EStateM ε (σ × List (Visit σ)) WalkStatus}
    (hstop : next .stop = Pure.pure .stop)
    (hnext : ∀ status ≠ .stop,
      visit.reply (visit.visitAt id phase state) =
        .ok status (visit.visitAt id phase state).after →
      Makes visit (next status) (visit.visitAt id phase state).after tour final) :
    Makes visit (visit.logged id phase >>= next) state (visit.visitAt id phase state :: tour)
      final := by
  intro log
  show EStateM.bind (visit.logged id phase) next (state, log) = _
  rw [EStateM.bind, Visitor.logged_eq, Visitor.ending, Visitor.untilEnd]
  have hreply : visit.reply (visit.visitAt id phase state) = visit id phase state := rfl
  have hafter := @Visitor.after_visitAt _ _ visit id phase state
  generalize visit.visitAt id phase state = made at hnext hreply hafter ⊢
  cases hvisit : visit id phase state with
  | ok status after =>
      rw [hvisit] at hreply
      obtain rfl : made.after = after := hafter hvisit
      by_cases hstatus : status = .stop
      · subst hstatus
        have hends : visit.ends made := by rw [Visitor.ends, hreply]
        rw [List.find?_cons_of_pos hends, if_pos hends]
        simp only [withLog, hreply, hstop]
        rfl
      · have hgoes : ¬ visit.ends made := by
          rw [Visitor.ends, hreply]
          cases status with
          | stop => exact absurd rfl hstatus
          | proceed | skipChildren => simp
        have htour := hnext status hstatus hreply (log ++ [made])
        rw [List.append_assoc, List.singleton_append] at htour
        rw [List.find?_cons_of_neg hgoes, if_neg hgoes]
        exact htour
  | error fault after =>
      rw [hvisit] at hreply
      have hends : visit.ends made := by rw [Visitor.ends, hreply]
      rw [List.find?_cons_of_pos hends, if_pos hends]
      simp only [withLog, hreply]

/-- A node is left; skipping children then is going on. -/
theorem leave (id : NodeId) (state : σ) :
    Makes visit (Document.leave visit.logged id) state [visit.visitAt id .exit state]
      (visit.visitAt id .exit state).after := by
  apply call
  · rfl
  · intro status hstatus _
    cases status with
    | stop => exact absurd rfl hstatus
    | proceed | skipChildren => exact .pure _

end Makes

section Parts

variable {holds : List NodeId → σ → List (Visit σ) → σ → Prop}
  (hnil : ∀ state, holds [] state [] state)
  (happend : ∀ {id ids state middle final first rest}, holds [id] state first middle →
    holds ids middle rest final → holds (id :: ids) state (first ++ rest) final)
include hnil happend

/-- The walks of some nodes make visits of which something holds that holds of visits one after
the other. -/
theorem exists_makes_walkEach {walkOne : NodeId → EStateM ε (σ × List (Visit σ)) WalkStatus}
    {ids : List NodeId}
    (hwalk : ∀ id ∈ ids, ∀ state, ∃ tour final, holds [id] state tour final ∧
      Makes visit (walkOne id) state tour final) (state : σ) :
    ∃ tour final, holds ids state tour final ∧
      Makes visit (walkEach walkOne ids) state tour final := by
  induction ids generalizing state with
  | nil => exact ⟨[], state, hnil state, .pure state⟩
  | cons id ids ih =>
      obtain ⟨hone, hothers⟩ := List.forall_mem_cons.mp hwalk
      obtain ⟨first, middle, hfirst, hmakes⟩ := hone state
      obtain ⟨rest, final, hrest, hmakesRest⟩ := ih hothers middle
      exact ⟨first ++ rest, final, happend hfirst hrest, hmakes.bind rfl hmakesRest⟩

/-- A walk of a node, from walks of its children. -/
theorem exists_makes_walkTo_succ
    (haround : ∀ {id state middle inner},
      holds (if visit.skips (visit.visitAt id .enter state) then [] else doc.children id)
        (visit.visitAt id .enter state).after inner middle →
      holds [id] state (visit.visitAt id .enter state :: inner ++ [visit.visitAt id .exit middle])
        (visit.visitAt id .exit middle).after)
    {depth : Nat} {id : NodeId}
    (hwalk : ∀ child ∈ doc.children id, ∀ state, ∃ tour final, holds [child] state tour final ∧
      Makes visit (doc.walkTo visit.logged depth child) state tour final) (state : σ) :
    ∃ tour final, holds [id] state tour final ∧
      Makes visit (doc.walkTo visit.logged (depth + 1) id) state tour final := by
  let entered := visit.visitAt id .enter state
  by_cases hskips : visit.skips entered
  · -- The only answer left is the one that skips the children.
    refine ⟨_, _, haround (by rw [if_pos hskips]; exact hnil entered.after), ?_⟩
    refine .call rfl fun status hstatus hreply => ?_
    rw [Visitor.skips, hreply] at hskips
    cases status with
    | stop => exact absurd rfl hstatus
    | proceed => cases hskips
    | skipChildren => exact .leave id entered.after
  · obtain ⟨inner, middle, hinner, hmakes⟩ :=
      exists_makes_walkEach hnil happend hwalk entered.after
    refine ⟨_, _, haround (by rw [if_neg hskips]; exact hinner), ?_⟩
    refine .call rfl fun status hstatus hreply => ?_
    rw [Visitor.skips, hreply] at hskips
    cases status with
    | stop => exact absurd rfl hstatus
    | proceed => exact hmakes.bind rfl (.leave id middle)
    | skipChildren => exact absurd rfl hskips

end Parts

/-- A walk of a node makes its tour if walks of its children make theirs. -/
theorem exists_isTour_walkTo_succ {depth : Nat} {id : NodeId}
    (hwalk : ∀ child ∈ doc.children id, ∀ state, ∃ tour final,
      doc.IsTour visit [child] state tour final ∧
        Makes visit (doc.walkTo visit.logged depth child) state tour final) (state : σ) :
    ∃ tour final, doc.IsTour visit [id] state tour final ∧
      Makes visit (doc.walkTo visit.logged (depth + 1) id) state tour final :=
  exists_makes_walkTo_succ (fun _ => .nil) .append (fun hinner => .cons hinner .nil) hwalk state

/-- Of two nodes above a third, one is above the other. -/
theorem isAbove_total {first second id : NodeId} (hfirst : doc.IsAbove first id)
    (hsecond : doc.IsAbove second id) : doc.IsAbove first second ∨ doc.IsAbove second first := by
  have hunique : Relator.RightUnique (Function.swap doc.IsParent) := by
    intro lower upper other hupper hother
    exact Option.some.inj (hupper.symm.trans hother)
  rw [IsAbove, ← Relation.reflTransGen_swap] at hfirst hsecond
  rcases Relation.ReflTransGen.total_of_right_unique hunique hfirst hsecond with h | h
  · exact .inr (Relation.reflTransGen_swap.mp h)
  · exact .inl (Relation.reflTransGen_swap.mp h)

/-- No child of a node stands above another one. -/
theorem WellFormed.not_isAbove_of_siblings (hwellFormed : doc.WellFormed) {id first second : NodeId}
    (hfirst : doc.IsParent id first) (hsecond : doc.IsParent id second) (hne : first ≠ second) :
    ¬ doc.IsAbove first second := by
  intro habove
  rcases Relation.ReflTransGen.cases_tail habove with heq | ⟨parent, hparent, hlink⟩
  · exact hne heq.symm
  · obtain rfl : parent = id := Option.some.inj (hlink.symm.trans hsecond)
    exact hwellFormed.acyclic parent (Relation.TransGen.head' hfirst hparent)

/-- No node is below two of them. -/
def Apart (doc : Document) (ids : List NodeId) : Prop :=
  ids.Pairwise fun first second => ∀ id, doc.IsAbove first id → ¬ doc.IsAbove second id

/-- Nothing is below two children of the same node. -/
theorem WellFormed.apart_children (hwellFormed : doc.WellFormed) (id : NodeId) :
    doc.Apart (doc.children id) := by
  apply (hwellFormed.nodup_children id).pairwise_of_forall_ne
  intro first hfirst second hsecond hne lower hlower hother
  have hfirst := (hwellFormed.mem_children id first).mp hfirst
  have hsecond := (hwellFormed.mem_children id second).mp hsecond
  rcases isAbove_total hlower hother with habove | habove
  · exact hwellFormed.not_isAbove_of_siblings hfirst hsecond hne habove
  · exact hwellFormed.not_isAbove_of_siblings hsecond hfirst hne.symm habove

/-- Each node that is left is the last one entered of those not left yet, and in the end
all are left. -/
def isBracketed : List NodeId → List (NodeId × Phase) → Bool
  | opened, [] => opened.isEmpty
  | opened, (id, .enter) :: rest => isBracketed (id :: opened) rest
  | last :: opened, (id, .exit) :: rest => last == id && isBracketed opened rest
  | [], (_, .exit) :: _ => false

/-- A tour opens and closes nodes like brackets, whatever is open before it. -/
theorem IsTour.isBracketed_append {ids : List NodeId} {state final : σ} {tour : List (Visit σ)}
    (htour : doc.IsTour visit ids state tour final) (opened : List NodeId)
    (calls : List (NodeId × Phase)) :
    isBracketed opened (tour.map Visit.call ++ calls) = isBracketed opened calls := by
  induction htour generalizing opened calls with
  | nil => rfl
  | @cons id ids state middle final inner rest hinner hrest ihInner ihRest =>
      rw [List.map_append, List.map_cons, List.map_cons, List.append_assoc, List.cons_append,
        List.cons_append]
      show isBracketed (id :: opened) (inner.map Visit.call ++ (id, .exit) :: _) = _
      rw [ihInner, isBracketed, beq_self_eq_true, Bool.true_and, ihRest]

section Proceeds

variable (hproceeds : visit.Proceeds)
include hproceeds

variable {ids : List NodeId} {state final : σ} {tour : List (Visit σ)}
  (htour : doc.IsTour visit ids state tour final) (hwellFormed : doc.WellFormed)
include htour hwellFormed

/-- A tour without skips enters and leaves all nodes below. -/
theorem IsTour.mem_calls_iff {id : NodeId} {phase : Phase} :
    (id, phase) ∈ tour.map Visit.call ↔ ∃ upper ∈ ids, doc.IsAbove upper id := by
  induction htour with
  | nil => simp
  | @cons upper ids state middle final inner rest hinner hrest ihInner ihRest =>
      rw [hproceeds.skips_eq_false] at ihInner
      have hcalls : (id, phase) = (upper, .enter) ∨ (id, phase) = (upper, .exit) ↔ upper = id := by
        cases phase <;> simp [eq_comm]
      have hupper : doc.IsAbove upper id ↔ upper = id ∨ (id, phase) ∈ inner.map Visit.call := by
        rw [ihInner, IsAbove, Relation.ReflTransGen.cases_head_iff]
        simp [hwellFormed.mem_children, IsParent]
      rw [List.exists_mem_cons_iff, hupper, ← ihRest, ← hcalls, or_assoc, or_or_or_comm]
      simp [Visit.call, Visitor.visitAt, or_assoc]

/-- It makes no visit twice. -/
theorem IsTour.nodup_calls (hapart : doc.Apart ids) : (tour.map Visit.call).Nodup := by
  induction htour with
  | nil => exact List.nodup_nil
  | @cons upper ids state middle final inner rest hinner hrest ihInner ihRest =>
      rw [hproceeds.skips_eq_false] at hinner ihInner
      obtain ⟨hbeside, hapart⟩ := List.pairwise_cons.mp hapart
      -- The visits between entering and leaving the node are of nodes further down.
      have hinnerId : ∀ phase, (upper, phase) ∉ inner.map Visit.call := by
        intro phase hmem
        obtain ⟨child, hchild, habove⟩ := (hinner.mem_calls_iff hproceeds hwellFormed).mp hmem
        exact hwellFormed.acyclic upper
          (Relation.TransGen.head' ((hwellFormed.mem_children upper child).mp hchild) habove)
      have hrestId : ∀ id phase, doc.IsAbove upper id → (id, phase) ∉ rest.map Visit.call := by
        intro id phase hid hmem
        obtain ⟨other, hother, habove⟩ := (hrest.mem_calls_iff hproceeds hwellFormed).mp hmem
        exact hbeside other hother id hid habove
      have hleft : ((upper, Phase.exit) :: rest.map Visit.call).Nodup :=
        List.nodup_cons.mpr ⟨hrestId upper .exit .refl, ihRest hapart⟩
      have hbelow : (inner.map Visit.call ++ (upper, .exit) :: rest.map Visit.call).Nodup := by
        refine List.nodup_append'.mpr ⟨ihInner (hwellFormed.apart_children upper), hleft, ?_⟩
        rintro ⟨id, phase⟩ hmem hlater
        rcases List.mem_cons.mp hlater with heq | hlater
        · exact hinnerId .exit (heq ▸ hmem)
        · obtain ⟨child, hchild, habove⟩ := (hinner.mem_calls_iff hproceeds hwellFormed).mp hmem
          exact hrestId id phase
            (.head ((hwellFormed.mem_children upper child).mp hchild) habove) hlater
      rw [List.map_append, List.map_cons, List.map_cons, List.cons_append]
      refine List.nodup_cons.mpr ⟨fun hmem => ?_, hbelow⟩
      rcases List.mem_append.mp hmem with hmem | hmem
      · exact hinnerId .enter hmem
      · rcases List.mem_cons.mp hmem with heq | hmem
        · cases heq
        · exact hrestId upper .enter .refl hmem

end Proceeds

/-- In a well-formed document, with any visitor and from any node on, a walk makes the
visits of the tour up to the first one at which the visitor stops or fails. The answer at
that visit is its result, and without such a visit it proceeds. With a visitor that
always proceeds, it enters and leaves all nodes below the first one just once, in
brackets. -/
theorem WellFormed.exists_tour_walk (hwellFormed : doc.WellFormed) {id : NodeId}
    (hid : id < doc.size) (visit : Visitor ε σ) (state : σ) :
    ∃ tour final, doc.IsTour visit [id] state tour final ∧
      doc.walk visit.logged id (state, []) =
        withLog (visit.untilEnd tour) (visit.ending tour final) ∧
      doc.walk visit id state = visit.ending tour final ∧
      (∀ after, doc.walk visit id state ≠ .ok .skipChildren after) ∧
      (visit.Proceeds →
        visit.untilEnd tour = tour ∧ doc.walk visit id state = .ok .proceed final ∧
        isBracketed [] (tour.map Visit.call) ∧ (tour.map Visit.call).Nodup ∧
        ∀ lower phase, (lower, phase) ∈ tour.map Visit.call ↔ doc.IsAbove id lower) := by
  obtain ⟨tour, final, htour, hmakes⟩ :=
    hwellFormed.descend
      (fun depth id => ∀ state, ∃ tour final, doc.IsTour visit [id] state tour final ∧
        Makes visit (doc.walkTo visit.logged depth id) state tour final)
      (fun _ _ => exists_isTour_walkTo_succ) (List.nodup_singleton id)
      (List.forall_mem_singleton.mpr hid) (List.forall_mem_singleton.mpr .refl)
      (Nat.lt_succ_self doc.size) state
  have hlogged : doc.walk visit.logged id (state, []) = _ := hmakes []
  have hplain : doc.walk visit id state = visit.ending tour final := by
    rw [walk, ← projects_walkTo_logged doc visit doc.size id state []]
    exact (congrArg withoutLog hlogged).trans (withoutLog_withLog _ _)
  refine ⟨tour, final, htour, hlogged, hplain, ?_, fun hproceeds => ?_⟩
  · exact fun after hskip => Visitor.ending_ne_skipChildren tour final after (hplain ▸ hskip)
  · have hall := hproceeds.find?_eq_none tour
    refine ⟨Visitor.untilEnd_of_none hall, ?_, ?_, ?_, ?_⟩
    · rw [hplain, Visitor.ending, hall]
    · simpa [isBracketed] using htour.isBracketed_append [] []
    · exact htour.nodup_calls hproceeds hwellFormed (List.pairwise_singleton _ _)
    · intro lower phase
      rw [htour.mem_calls_iff hproceeds hwellFormed]
      simp

/-- A quote with a paragraph, and a rule behind it. -/
def quoteThenRule : Document :=
  [Edit.addNode .blockquote, .addNode .paragraph, .addNode .thematicBreak, .appendChild 0 1,
    .appendChild 1 2, .appendChild 0 3].foldl Edit.apply .empty

/-- Skips what is in quotes, fails at rules and counts its visits. -/
def skipQuotes : Visitor String Nat := fun id phase count =>
  match (quoteThenRule.node id).element, phase with
  | .blockquote, .enter => .ok .skipChildren (count + 1)
  | .thematicBreak, .enter => .error "rule" (count + 1)
  | _, _ => .ok .proceed (count + 1)

/-- The visitor skips the quote and fails at the rule behind it. -/
theorem exists_tour_walk_skipQuotes :
    quoteThenRule.WellFormed ∧ 0 < quoteThenRule.size ∧
    quoteThenRule.walk skipQuotes 0 0 = .error "rule" 4 ∧
    ∃ tour final, quoteThenRule.IsTour skipQuotes [0] 0 tour final ∧
      (skipQuotes.untilEnd tour).map Visit.call =
        [(0, .enter), (1, .enter), (1, .exit), (3, .enter)] := by
  have hlegal : Edit.AllLegal .empty [.addNode .blockquote, .addNode .paragraph,
      .addNode .thematicBreak, .appendChild 0 1, .appendChild 1 2, .appendChild 0 3] := by
    refine ⟨trivial, trivial, trivial, ⟨by decide, by decide, ?first⟩,
      ⟨by decide, by decide, ?inner⟩, ⟨by decide, by decide, ?second⟩, trivial⟩
    case first | second => exact not_isAbove_of_top rfl (by decide)
    case inner =>
      exact not_isAbove_of_parent rfl (by decide) (not_isAbove_of_top rfl (by decide))
  have hwellFormed : quoteThenRule.WellFormed := (Edit.isForest_foldl .empty hlegal).wellFormed
  obtain ⟨tour, final, htour, hlogged, -⟩ :=
    hwellFormed.exists_tour_walk (by decide : 0 < quoteThenRule.size) skipQuotes 0
  have hwalk : quoteThenRule.walk skipQuotes.logged 0 (0, []) =
      .error "rule" (4, [⟨0, .enter, 0, 1⟩, ⟨1, .enter, 1, 2⟩, ⟨1, .exit, 2, 3⟩,
        ⟨3, .enter, 3, 4⟩]) := rfl
  refine ⟨hwellFormed, by decide, rfl, tour, final, htour, ?_⟩
  rw [hwalk] at hlogged
  cases hending : skipQuotes.ending tour final with
  | ok status state =>
      rw [hending] at hlogged
      cases hlogged
  | error fault state =>
      rw [hending, withLog, EStateM.Result.error.injEq, Prod.mk.injEq] at hlogged
      rw [← hlogged.2.2]
      rfl

end Document

end MarkdownFormat
