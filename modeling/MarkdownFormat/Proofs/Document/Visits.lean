/-
# The visits to a node

The visits to a node are entering it, the visits to its children and leaving it. Each node
below is entered once. What two visitors do at such visits can be compared visit by visit,
also if the second makes other visits in the place of some.
-/

import Mathlib.Data.List.Basic
import MarkdownFormat.Proofs.Document.Moves
import MarkdownFormat.Proofs.Document.Tour
import MarkdownFormat.Proofs.Document.VisitOrder

namespace MarkdownFormat

namespace Document

variable {doc : Document}

/-- The visits to the tree below a node, if nothing is left out. -/
def calls (doc : Document) (id : NodeId) : List (NodeId × Phase) :=
  doc.callsTo doc.size id

/-- Where there is no node, there are no children. -/
theorem children_of_size_le {id : NodeId} (hid : doc.size ≤ id) : doc.children id = [] := by
  apply children_eq_nil
  rw [hasChildren, node_of_size_le hid]
  rfl

namespace WellFormed

variable (hwellFormed : doc.WellFormed)
include hwellFormed

/-- What holds of a node if it holds of its children holds of all nodes. -/
theorem children_induction {holds : NodeId → Prop}
    (hstep : ∀ id, (∀ child ∈ doc.children id, holds child) → holds id) (id : NodeId) :
    holds id := by
  by_cases hid : id < doc.size
  · exact hwellFormed.descend (fun _ => holds) (fun _ => hstep) (List.nodup_singleton id)
      (List.forall_mem_singleton.mpr hid) (List.forall_mem_singleton.mpr .refl)
      (Nat.lt_succ_self doc.size)
  · apply hstep
    rw [children_of_size_le (Nat.le_of_not_lt hid)]
    exact fun _ hchild => absurd hchild List.not_mem_nil

/-- Below the root, one level less is enough. -/
theorem callsTo_child {depth : Nat} (hsize : doc.size = depth + 1) {id child : NodeId}
    (hchild : child ∈ doc.children id) : doc.callsTo depth child = doc.calls child := by
  have hparent : doc.IsParent id child := (hwellFormed.mem_children id child).mp hchild
  have hne : child ≠ id := hwellFormed.ne_of_isParent hparent
  have hdeeper : doc.callsTo depth child = doc.callsTo (depth + 1) child := by
    apply hwellFormed.descend (fun depth id => doc.callsTo depth id = doc.callsTo (depth + 1) id)
    · intro depth id hchildren
      rw [callsTo, callsTo, List.flatMap_congr hchildren]
    · exact List.nodup_cons.mpr ⟨List.mem_singleton.not.mpr hne, List.nodup_singleton id⟩
    · simp [lt_size_of_parent hparent, (hwellFormed.rows.mem_of_parent hparent).1]
    · simp [IsAbove, Relation.ReflTransGen.refl, Relation.ReflTransGen.single hparent]
    · simp [hsize]
  rw [hdeeper, calls, hsize]

/-- Between entering and leaving a node come the visits to its children. -/
theorem calls_eq (hsize : 0 < doc.size) (id : NodeId) :
    doc.calls id =
      (id, .enter) :: ((doc.children id).flatMap doc.calls ++ [(id, .exit)]) := by
  obtain ⟨depth, hdepth⟩ := Nat.exists_eq_add_of_lt hsize
  rw [Nat.zero_add] at hdepth
  rw [calls, hdepth, callsTo, List.flatMap_congr fun child => hwellFormed.callsTo_child hdepth]

end WellFormed

/-- A visitor that does nothing. -/
def passBy : Visitor Empty Unit := fun _ _ => pure .proceed

/-- A visitor that does nothing always proceeds. -/
theorem proceeds_passBy : passBy.Proceeds :=
  fun _ _ _ => ⟨(), rfl⟩

namespace WellFormed

variable (hwellFormed : doc.WellFormed) (hsize : 0 < doc.size)
include hwellFormed hsize

/-- The visits to a node are a tour. -/
theorem exists_tour_calls (id : NodeId) :
    ∃ tour, doc.IsTour passBy [id] () tour () ∧ tour.map Visit.call = doc.calls id := by
  induction id using hwellFormed.children_induction with
  | hstep id ih =>
      have hrow : ∀ ids, (∀ child ∈ ids, child ∈ doc.children id) →
          ∃ tour, doc.IsTour passBy ids () tour () ∧
            tour.map Visit.call = ids.flatMap doc.calls := by
        intro ids hids
        induction ids with
        | nil => exact ⟨[], .nil, rfl⟩
        | cons child ids ihIds =>
            obtain ⟨hchild, hids⟩ := List.forall_mem_cons.mp hids
            obtain ⟨first, hfirst, hcalls⟩ := ih child hchild
            obtain ⟨rest, hrest, hothers⟩ := ihIds hids
            refine ⟨first ++ rest, hfirst.append hrest, ?_⟩
            rw [List.map_append, hcalls, hothers, List.flatMap_cons]
      obtain ⟨inner, hinner, hcalls⟩ := hrow (doc.children id) fun _ hchild => hchild
      refine ⟨_, .cons hinner .nil, ?_⟩
      rw [hwellFormed.calls_eq hsize, ← hcalls]
      simp [Visit.call, Visitor.visitAt]

/-- The nodes that are visited are those below, and the node itself. -/
theorem mem_calls_iff {upper id : NodeId} {phase : Phase} :
    (id, phase) ∈ doc.calls upper ↔ doc.IsAbove upper id := by
  obtain ⟨tour, htour, hcalls⟩ := hwellFormed.exists_tour_calls hsize upper
  rw [← hcalls, htour.mem_calls_iff proceeds_passBy hwellFormed]
  simp

/-- All of them are there. -/
theorem lt_size_of_mem_calls {upper id : NodeId} {phase : Phase} (hupper : upper < doc.size)
    (hmem : (id, phase) ∈ doc.calls upper) : id < doc.size := by
  rw [hwellFormed.mem_calls_iff hsize] at hmem
  rcases Relation.ReflTransGen.cases_tail hmem with rfl | ⟨parent, -, hparent⟩
  · exact hupper
  · exact lt_size_of_parent hparent

/-- No visit is made twice. -/
theorem nodup_calls (id : NodeId) : (doc.calls id).Nodup := by
  obtain ⟨tour, htour, hcalls⟩ := hwellFormed.exists_tour_calls hsize id
  rw [← hcalls]
  exact htour.nodup_calls proceeds_passBy hwellFormed (List.pairwise_singleton _ _)

end WellFormed

end Document

section Leads

variable {ε σ : Type}

/-- Made one after the other, the visits go through, from one state to another. -/
def Visitor.Leads (visit : Visitor ε σ) (before : σ) (calls : List (NodeId × Phase))
    (after : σ) : Prop :=
  ∃ log, visit.Passes before log after ∧ log.map Visit.call = calls

namespace Visitor

variable {visit other : Visitor ε σ} {before after state last : σ}
  {calls later : List (NodeId × Phase)}

/-- No visits lead nowhere. -/
theorem leads_nil_iff : visit.Leads before [] after ↔ after = before := by
  constructor
  · rintro ⟨log, hpasses, hcalls⟩
    rw [List.map_eq_nil_iff] at hcalls
    subst hcalls
    cases hpasses
    rfl
  · rintro rfl
    exact ⟨[], .nil _, rfl⟩

/-- The first visit leads to where the others start. -/
theorem leads_cons_iff {id : NodeId} {phase : Phase} :
    visit.Leads before ((id, phase) :: calls) after ↔
      ∃ inside, visit id phase before = .ok .proceed inside ∧ visit.Leads inside calls after := by
  constructor
  · rintro ⟨log, hpasses, hcalls⟩
    cases hpasses with
    | nil => cases hcalls
    | cons hvisit hrest =>
        cases hcalls
        exact ⟨_, hvisit, _, hrest, rfl⟩
  · rintro ⟨inside, hvisit, log, hpasses, rfl⟩
    exact ⟨_, .cons hvisit hpasses, rfl⟩

/-- A single visit leads to where it ends. -/
theorem leads_singleton_iff {id : NodeId} {phase : Phase} :
    visit.Leads before [(id, phase)] after ↔ visit id phase before = .ok .proceed after := by
  simp [leads_cons_iff, leads_nil_iff]

/-- Visits can be parted anywhere. -/
theorem leads_append_iff :
    visit.Leads before (calls ++ later) after ↔
      ∃ middle, visit.Leads before calls middle ∧ visit.Leads middle later after := by
  induction calls generalizing before with
  | nil => simp [leads_nil_iff]
  | cons call calls ih =>
      obtain ⟨id, phase⟩ := call
      rw [List.cons_append, leads_cons_iff]
      simp only [leads_cons_iff, ih]
      constructor
      · rintro ⟨inside, hvisit, middle, hcalls, hlater⟩
        exact ⟨middle, ⟨inside, hvisit, hcalls⟩, hlater⟩
      · rintro ⟨middle, ⟨inside, hvisit, hcalls⟩, hlater⟩
        exact ⟨inside, hvisit, middle, hcalls, hlater⟩

/-- Two visitors whose states are alike before each visit of the first and after what the
second does in its place leave states that are alike. -/
theorem Leads.simulates (related : σ → σ → Prop)
    {write : NodeId × Phase → List (NodeId × Phase)}
    (hstep : ∀ id phase, (id, phase) ∈ calls → ∀ before after state last, related before state →
      visit id phase before = .ok .proceed after → other.Leads state (write (id, phase)) last →
      related after last)
    (hleads : visit.Leads before calls after)
    (hother : other.Leads state (calls.flatMap write) last)
    (hbefore : related before state) : related after last := by
  induction calls generalizing before state with
  | nil =>
      rw [leads_nil_iff] at hleads
      rw [List.flatMap_nil, leads_nil_iff] at hother
      rwa [hleads, hother]
  | cons call calls ih =>
      obtain ⟨id, phase⟩ := call
      obtain ⟨inside, hvisit, hrest⟩ := leads_cons_iff.mp hleads
      rw [List.flatMap_cons, leads_append_iff] at hother
      obtain ⟨middle, hwrite, hlater⟩ := hother
      refine ih (fun id phase hmem => hstep id phase (List.mem_cons_of_mem _ hmem)) hrest hlater ?_
      exact hstep id phase List.mem_cons_self before inside state middle hbefore hvisit hwrite

end Visitor

end Leads

end MarkdownFormat
