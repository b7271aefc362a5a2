/-
# Walks

What holds of every visit and is kept by doing one after the other holds of a whole walk.

A walk goes down to a given depth. In a well-formed document no path has more nodes than
the document, so from a node that is so far down that the paths below it are known to end
within the depth, a walk of a greater depth is the same.
-/

import MarkdownFormat.Document.Walk
import MarkdownFormat.Proofs.Document.History

namespace MarkdownFormat.Document

variable {ε σ : Type} {doc : Document} {visit : Visitor ε σ}

/-- A node without a first child has no children. -/
theorem children_eq_nil {id : NodeId} (hnone : doc.hasChildren id = false) :
    doc.children id = [] := by
  rw [hasChildren, Option.isSome_eq_false_iff, Option.isNone_iff_eq_none] at hnone
  rw [children, hnone]
  cases doc.size <;> rfl

/-- A walk that nothing stops enters the node, walks its children and leaves it. -/
theorem walkTo_of_visits {depth : Nat} {id : NodeId} {before inside inner after : σ}
    (henter : visit id .enter before = .ok .proceed inside)
    (hchildren : walkEach (doc.walkTo visit depth) (doc.children id) inside = .ok .proceed inner)
    (hexit : visit id .exit inner = .ok .proceed after) :
    doc.walkTo visit (depth + 1) id before = .ok .proceed after := by
  rw [walkTo]
  show EStateM.bind _ _ _ = _
  rw [EStateM.bind, henter]
  show EStateM.bind _ _ _ = _
  rw [EStateM.bind, hchildren]
  show EStateM.bind _ _ _ = _
  rw [EStateM.bind, hexit]
  rfl

section Closed

variable {holds : EStateM ε σ WalkStatus → Prop}
  (hpure : ∀ status, holds (pure status))
  (hbind : ∀ {action : EStateM ε σ WalkStatus} {next : WalkStatus → EStateM ε σ WalkStatus},
    holds action → (∀ status, holds (next status)) → holds (action >>= next))
include hpure hbind

/-- A walk over several nodes is made of the walks over each. -/
theorem walkEach_of_closed {walkOne : NodeId → EStateM ε σ WalkStatus}
    (hwalk : ∀ id, holds (walkOne id)) (ids : List NodeId) : holds (walkEach walkOne ids) := by
  induction ids with
  | nil => exact hpure _
  | cons id ids ih =>
      refine hbind (hwalk id) fun status => ?_
      cases status with
      | stop => exact hpure _
      | proceed | skipChildren => exact ih

/-- Leaving a node is made of one visit and what follows from its status. -/
theorem leave_of_closed (hvisit : ∀ id phase, holds (visit id phase)) (id : NodeId) :
    holds (leave visit id) := by
  refine hbind (hvisit id .exit) fun status => ?_
  cases status <;> exact hpure _

/-- A walk is made of visits, whatever the tree is. -/
theorem walkTo_of_closed (hvisit : ∀ id phase, holds (visit id phase)) (depth : Nat)
    (id : NodeId) : holds (doc.walkTo visit depth id) := by
  induction depth generalizing id with
  | zero => exact hpure _
  | succ depth ih =>
      refine hbind (hvisit id .enter) fun status => ?_
      cases status with
      | stop => exact hpure _
      | skipChildren => exact leave_of_closed hpure hbind hvisit id
      | proceed =>
          refine hbind (walkEach_of_closed hpure hbind ih _) fun status => ?_
          cases status with
          | stop => exact hpure _
          | proceed | skipChildren => exact leave_of_closed hpure hbind hvisit id

end Closed

/-- Walks over several nodes are the same if they are the same over each. -/
theorem walkEach_congr {first second : NodeId → EStateM ε σ WalkStatus} {ids : List NodeId}
    (hsame : ∀ id ∈ ids, first id = second id) : walkEach first ids = walkEach second ids := by
  induction ids with
  | nil => rfl
  | cons id ids ih =>
      rw [walkEach, walkEach, hsame id List.mem_cons_self,
        ih fun other hother => hsame other (List.mem_cons_of_mem _ hother)]

/-- A node with a parent is there. -/
theorem lt_size_of_isParent {upper lower : NodeId} (hparent : doc.IsParent upper lower) :
    lower < doc.size := by
  by_contra hlower
  rw [IsParent, node_of_size_le (Nat.le_of_not_lt hlower)] at hparent
  cases hparent

/-- What holds of a node one level deeper than it holds of its children holds of each node
at a depth that the paths below it cannot reach, as so many nodes are on the way down to
it. -/
theorem WellFormed.descend (hwellFormed : doc.WellFormed) (holds : Nat → NodeId → Prop)
    (hstep : ∀ depth id, (∀ child ∈ doc.children id, holds depth child) → holds (depth + 1) id)
    {path : List NodeId} (hnodup : path.Nodup) (hlt : ∀ upper ∈ path, upper < doc.size)
    {id : NodeId} (habove : ∀ upper ∈ path, doc.IsAbove upper id) {depth : Nat}
    (hdeep : doc.size < depth + path.length) : holds depth id := by
  induction depth generalizing path id with
  | zero =>
      have hlength := length_le_size hnodup hlt
      omega
  | succ depth ih =>
      apply hstep
      intro child hchild
      have hparent : doc.IsParent id child := (hwellFormed.mem_children id child).mp hchild
      have hfresh : child ∉ path := fun hmem =>
        hwellFormed.acyclic child (Relation.TransGen.tail' (habove child hmem) hparent)
      refine ih (List.nodup_cons.mpr ⟨hfresh, hnodup⟩) ?_ ?_ ?_
      · exact List.forall_mem_cons.mpr ⟨lt_size_of_isParent hparent, hlt⟩
      · exact List.forall_mem_cons.mpr
          ⟨.refl, fun upper hupper => (habove upper hupper).tail hparent⟩
      · rw [List.length_cons]
        omega

/-- Below a node with so many nodes on the way down to it, one level more makes no
difference to a walk. -/
theorem WellFormed.walkTo_succ (hwellFormed : doc.WellFormed) {path : List NodeId}
    (hnodup : path.Nodup) (hlt : ∀ upper ∈ path, upper < doc.size) {id : NodeId}
    (habove : ∀ upper ∈ path, doc.IsAbove upper id) {depth : Nat}
    (hdeep : doc.size < depth + path.length) :
    doc.walkTo visit (depth + 1) id = doc.walkTo visit depth id := by
  refine hwellFormed.descend
    (fun depth id => doc.walkTo visit (depth + 1) id = doc.walkTo visit depth id)
    (fun depth id hchildren => ?_) hnodup hlt habove hdeep
  have hrow : walkEach (doc.walkTo visit (depth + 1)) (doc.children id) =
      walkEach (doc.walkTo visit depth) (doc.children id) := walkEach_congr hchildren
  rw [walkTo, hrow]
  rfl

end MarkdownFormat.Document
