/-
# The order of visits

A walk that proceeds at every visit enters a node, visits its children in order and leaves
it, so the document alone says which visits it makes. It comes to every node that there is a
way down to. Where the links lead through the rows of the document, a node is entered right
after its neighbour before it has been left.
-/

import MarkdownFormat.Proofs.Document.Order

namespace MarkdownFormat.Document

variable {doc : Document}

/-- The visits to the tree below a node, down to the given depth, if nothing is left out. -/
def callsTo (doc : Document) : Nat → NodeId → List (NodeId × Phase)
  | 0, _ => []
  | depth + 1, id =>
      (id, .enter) :: ((doc.children id).flatMap (doc.callsTo depth) ++ [(id, .exit)])

/-- The nodes that are entered, in order. -/
def entered (calls : List (NodeId × Phase)) : List NodeId :=
  (calls.filter fun call => call.2 = .enter).map Prod.fst

@[simp]
theorem entered_append (first second : List (NodeId × Phase)) :
    entered (first ++ second) = entered first ++ entered second := by
  rw [entered, List.filter_append, List.map_append, entered, entered]

/-- A walk over several nodes enters what the visits to each enter. -/
theorem walkEach_noteEntered {depth : Nat}
    (hwalk : ∀ id noted, doc.walkTo noteEntered depth id noted =
      .ok .proceed (noted ++ entered (doc.callsTo depth id)))
    (ids : List NodeId) (noted : List NodeId) :
    walkEach (doc.walkTo noteEntered depth) ids noted =
      .ok .proceed (noted ++ entered (ids.flatMap (doc.callsTo depth))) := by
  induction ids generalizing noted with
  | nil => rw [List.flatMap_nil, entered, List.filter_nil, List.map_nil, List.append_nil]; rfl
  | cons id ids ih =>
      show EStateM.bind (doc.walkTo noteEntered depth id) _ noted = _
      rw [EStateM.bind, hwalk]
      show walkEach _ ids _ = _
      rw [ih, List.flatMap_cons, entered_append, List.append_assoc]

/-- A visitor that notes what is entered notes just the nodes that are entered. -/
theorem walkTo_noteEntered (depth : Nat) (id : NodeId) (noted : List NodeId) :
    doc.walkTo noteEntered depth id noted =
      .ok .proceed (noted ++ entered (doc.callsTo depth id)) := by
  induction depth generalizing id noted with
  | zero => exact congrArg _ (List.append_nil noted).symm
  | succ depth ih =>
      have hcalls : entered (doc.callsTo (depth + 1) id) =
          id :: entered ((doc.children id).flatMap (doc.callsTo depth)) := by
        rw [callsTo, ← List.singleton_append, entered_append, entered_append]
        exact congrArg (id :: ·) (List.append_nil _)
      show EStateM.bind (walkEach (doc.walkTo noteEntered depth) (doc.children id)) _
        (noted ++ [id]) = _
      rw [EStateM.bind, walkEach_noteEntered ih, hcalls, List.append_assoc]
      rfl

/-- The second of two visits, if it enters a node with a neighbour before it, comes after that
one has been left. -/
def GoesOn (doc : Document) (first second : NodeId × Phase) : Prop :=
  second.2 = .enter → ∀ previous, (doc.node second.1).previous = some previous →
    first = (previous, .exit)

/-- The last visit to a node is leaving it. -/
theorem getLast?_callsTo {depth : Nat} {id : NodeId} :
    ∀ call ∈ (doc.callsTo depth id).getLast?, call = (id, .exit) := by
  cases depth with
  | zero => nofun
  | succ depth =>
      intro call hcall
      rw [callsTo, ← List.cons_append, List.getLast?_concat] at hcall
      exact (Option.some.inj hcall).symm

/-- The visits to a row begin with entering its first node. -/
theorem Row.head?_callsTo {parent : NodeId} {previous first : Option NodeId} {ids : List NodeId}
    (hrow : doc.Row parent previous first ids) {depth : Nat} :
    ∀ call ∈ (ids.flatMap (doc.callsTo depth)).head?,
      call.2 = .enter ∧ (doc.node call.1).previous = previous := by
  cases depth with
  | zero =>
      have hnone : ids.flatMap (doc.callsTo 0) = [] := List.flatMap_eq_nil_iff.mpr fun _ _ => rfl
      rw [hnone]
      nofun
  | succ depth =>
      cases ids with
      | nil => nofun
      | cons id rest =>
          rintro call ⟨⟩
          exact ⟨rfl, hrow.2.2.1⟩

/-- Between two neighbours of a row nothing is visited. -/
theorem Row.isChain_callsTo {depth : Nat}
    (hcalls : ∀ id, (doc.callsTo depth id).IsChain doc.GoesOn) {parent : NodeId}
    {previous first : Option NodeId} {ids : List NodeId}
    (hrow : doc.Row parent previous first ids) :
    (ids.flatMap (doc.callsTo depth)).IsChain doc.GoesOn := by
  induction ids generalizing previous first with
  | nil => exact .nil
  | cons id rest ih =>
      have hrest := hrow.2.2.2
      rw [List.flatMap_cons]
      refine List.isChain_append.mpr ⟨hcalls id, ih hrest, fun last hlast head hhead => ?_⟩
      intro _ other hother
      rw [(hrest.head?_callsTo head hhead).2] at hother
      cases hother
      exact getLast?_callsTo last hlast

/-- Where the links lead through the rows, each visit goes on from the one before it. -/
theorem isChain_callsTo
    (hrows : ∀ id, doc.Row id none (doc.node id).firstChild (doc.children id)) (depth : Nat)
    (id : NodeId) : (doc.callsTo depth id).IsChain doc.GoesOn := by
  induction depth generalizing id with
  | zero => exact .nil
  | succ depth ih =>
      have hinner : ((doc.children id).flatMap (doc.callsTo depth) ++ [(id, Phase.exit)]).IsChain
          doc.GoesOn := by
        refine List.isChain_append.mpr
          ⟨(hrows id).isChain_callsTo ih, .singleton _, fun last _ head hhead => ?_⟩
        cases hhead
        nofun
      refine List.isChain_cons.mpr ⟨fun head hhead => ?_, hinner⟩
      intro henter other hother
      rw [List.head?_append] at hhead
      rcases Option.or_eq_some_iff.mp hhead with hfirst | ⟨-, hlast⟩
      · rw [((hrows id).head?_callsTo head hfirst).2] at hother
        cases hother
      · cases hlast
        cases henter

end MarkdownFormat.Document
