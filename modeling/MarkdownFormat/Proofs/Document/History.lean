/-
# Documents under edits

A document is made by adding nodes and moving them about. As long as no node is moved
below itself, the links always stand for a forest: the children of each node, followed
from the first on, are the nodes that have it as their parent, their neighbours agree
with one another, and going up from a node never comes back to it.
-/

import Mathlib.Order.RelClasses
import MarkdownFormat.Proofs.Document.Rows

namespace MarkdownFormat

namespace Document

variable {doc changed : Document}

/-- The first node is the parent of the second. -/
def IsParent (doc : Document) (upper lower : NodeId) : Prop :=
  (doc.node lower).parent = some upper

/-- The first node is the second one or stands somewhere above it. -/
def IsAbove (doc : Document) : NodeId → NodeId → Prop :=
  Relation.ReflTransGen doc.IsParent

/-- Nothing but itself is above a node without a parent. -/
theorem not_isAbove_of_top {upper lower : NodeId} (htop : (doc.node lower).parent = none)
    (hne : upper ≠ lower) : ¬ doc.IsAbove upper lower := by
  intro habove
  rcases Relation.ReflTransGen.cases_tail habove with heq | ⟨parent, -, hparent⟩
  · exact hne heq.symm
  · rw [IsParent, htop] at hparent
    cases hparent

/-- What is not above the parent is not above the child, unless it is the child. -/
theorem not_isAbove_of_parent {upper lower parent : NodeId} (hparent : doc.IsParent parent lower)
    (hne : upper ≠ lower) (habove : ¬ doc.IsAbove upper parent) : ¬ doc.IsAbove upper lower := by
  intro hlower
  rcases Relation.ReflTransGen.cases_tail hlower with heq | ⟨other, hother, hlink⟩
  · exact hne heq.symm
  · rw [IsParent] at hparent hlink
    rw [hparent, Option.some.injEq] at hlink
    exact habove (hlink ▸ hother)

/-- A relation without infinite descent keeps none if only what is below one element
changes, and that element does not get below itself. -/
theorem wellFounded_of_move {α : Type} {before after : α → α → Prop}
    (hbefore : WellFounded before) {moved : α}
    (hkept : ∀ upper lower, lower ≠ moved → after upper lower → before upper lower)
    (hmoved : ∀ upper, after upper moved → ¬ Relation.ReflTransGen before moved upper) :
    WellFounded after := by
  have houtside : ∀ lower, ¬ Relation.ReflTransGen before moved lower → Acc after lower := by
    intro lower
    induction lower using hbefore.induction with
    | h lower ih =>
        intro hbelow
        refine ⟨lower, fun upper hupper => ?_⟩
        have hne : lower ≠ moved := fun heq => hbelow (heq ▸ .refl)
        have hold := hkept upper lower hne hupper
        exact ih upper hold fun habove => hbelow (habove.tail hold)
  have hself : Acc after moved := ⟨moved, fun upper hupper => houtside upper (hmoved upper hupper)⟩
  refine ⟨fun lower => ?_⟩
  induction lower using hbefore.induction with
  | h lower ih =>
      by_cases hlower : lower = moved
      · exact hlower ▸ hself
      · exact ⟨lower, fun upper hupper => ih upper (hkept upper lower hlower hupper)⟩

/-- The links of a document stand for rows of children, and no node is above itself. -/
structure IsForest (doc : Document) : Prop where
  rows : doc.Rows doc.children
  grounded : WellFounded doc.IsParent

/-- The rows are those that are found by following the links. -/
theorem Rows.rows_children {rows : NodeId → List NodeId} (hrows : doc.Rows rows) :
    doc.Rows doc.children := by
  have hchildren : doc.children = rows := funext hrows.children_eq
  rwa [hchildren]

/-- After a move the moved node stands below its new parent, and all others where they
stood. -/
theorem Rows.isParent_of_move {rows : NodeId → List NodeId} (hrows : doc.Rows rows)
    {parent child : NodeId} {row : List NodeId}
    (hrow : row.Perm (child :: (rows parent).erase child))
    (hmoved : changed.Rows (Function.update (fun id => (rows id).erase child) parent row))
    {upper lower : NodeId} :
    changed.IsParent upper lower ↔
      if lower = child then upper = parent else doc.IsParent upper lower := by
  rw [IsParent, IsParent, ← hmoved.mem_iff, ← hrows.mem_iff]
  by_cases hupper : upper = parent
  · rw [hupper, Function.update_self, hrow.mem_iff, List.mem_cons, (hrows.nodup _).mem_erase_iff]
    split <;> simp [*]
  · rw [Function.update_of_ne hupper, (hrows.nodup _).mem_erase_iff]
    split <;> simp [*]

/-- Detaching takes away one parent and no other. -/
theorem Rows.isParent_detach {rows : NodeId → List NodeId} (hrows : doc.Rows rows)
    {id : NodeId} (hid : id < doc.size) {upper lower : NodeId} :
    (doc.detach id).IsParent upper lower ↔ lower ≠ id ∧ doc.IsParent upper lower := by
  rw [IsParent, IsParent, hrows.parent_detach hid]
  split <;> simp [*]

/-- In an empty document all nodes are as the root is. -/
theorem node_empty (id : NodeId) : Document.empty.node id = { element := .document } := by
  rcases Nat.eq_zero_or_pos id with rfl | hid
  · rfl
  · exact node_of_size_le hid

namespace IsForest

/-- The root alone is a forest. -/
theorem empty : IsForest Document.empty where
  rows := by
    have hrows : Document.empty.Rows fun _ => [] := by
      constructor <;> simp [node_empty, Linked]
    exact hrows.rows_children
  grounded := ⟨fun lower => ⟨lower, fun upper hupper => by
    rw [IsParent, node_empty] at hupper
    cases hupper⟩⟩

variable (hforest : doc.IsForest)
include hforest

/-- Links are all that counts. -/
theorem congr (hsize : doc.size ≤ changed.size) (hsame : ∀ k, doc.SameLinks changed k) :
    changed.IsForest where
  rows := (hforest.rows.congr hsize hsame).rows_children
  grounded := by
    have hparent : changed.IsParent = doc.IsParent := by
      funext upper lower
      rw [IsParent, IsParent, (hsame lower).1.1]
    rw [hparent]
    exact hforest.grounded

/-- A new node is a tree of its own. -/
theorem addNode (element : Element) : (doc.addNode element).IsForest := by
  apply hforest.congr (by simp)
  intro k
  by_cases hk : k = doc.size
  · simp [SameLinks, SamePlace, hk, node_addNode, node_of_size_le]
  · simp [SameLinks, SamePlace, hk, node_addNode]

/-- Changing what a node is does not touch a link. -/
theorem modify (id : NodeId) {change : Node → Node}
    (hchange : ∀ node, (change node).parent = node.parent ∧
      (change node).previous = node.previous ∧ (change node).next = node.next ∧
        (change node).firstChild = node.firstChild ∧ (change node).lastChild = node.lastChild) :
    (doc.modify id change).IsForest := by
  apply hforest.congr (by simp)
  intro k
  rw [SameLinks, SamePlace, node_modify]
  split <;> simp [hchange]

/-- A node that is taken out is the top of a tree of its own. -/
theorem detach {id : NodeId} (hid : id < doc.size) : (doc.detach id).IsForest where
  rows := (hforest.rows.detach hid).rows_children
  grounded := Subrelation.wf (fun hparent => (hforest.rows.isParent_detach hid).mp hparent |>.2)
    hforest.grounded

/-- A node that is not moved below itself stands in a forest afterwards. -/
theorem move {parent child : NodeId} {row : List NodeId} (habove : ¬ doc.IsAbove child parent)
    (hrow : row.Perm (child :: (doc.children parent).erase child))
    (hmoved : changed.Rows (Function.update (fun id => (doc.children id).erase child) parent row)) :
    changed.IsForest where
  rows := hmoved.rows_children
  grounded := by
    have hparent := @Rows.isParent_of_move _ _ _ hforest.rows _ _ _ hrow hmoved
    apply wellFounded_of_move hforest.grounded
    · intro upper lower hlower hchanged
      rwa [hparent, if_neg hlower] at hchanged
    · intro upper hchanged
      rw [hparent, if_pos rfl] at hchanged
      exact hchanged ▸ habove

/-- A node may be put behind the last child of another that is not below it. -/
theorem appendChild {parent child : NodeId} (hparent : parent < doc.size)
    (hchild : child < doc.size) (habove : ¬ doc.IsAbove child parent) :
    (doc.appendChild parent child).IsForest :=
  hforest.move habove (List.perm_append_singleton _ _)
    (hforest.rows.appendChild hparent hchild)

/-- A node may be put before a child of another that is not below it. -/
theorem insertBefore {parent before child : NodeId} (hchild : child < doc.size)
    (hbefore : doc.IsParent parent before) (hne : before ≠ child)
    (habove : ¬ doc.IsAbove child parent) : (doc.insertBefore parent before child).IsForest := by
  obtain ⟨hparent, hmem⟩ := hforest.rows.mem_of_parent hbefore
  obtain ⟨front, back, hsplit⟩ :=
    List.append_of_mem ((List.mem_erase_of_ne hne).mpr hmem)
  have hrow : (front ++ child :: before :: back).Perm
      (child :: (doc.children parent).erase child) := by
    rw [hsplit]
    exact List.perm_middle
  exact hforest.move habove hrow (hforest.rows.insertBefore hparent hchild hsplit)

end IsForest

/-- From the first node on, the links to the next lead through the nodes and end there. -/
def Follows (doc : Document) : Option NodeId → List NodeId → Prop
  | first, [] => first = none
  | first, id :: rest => first = some id ∧ Follows doc (doc.node id).next rest

/-- What the links of a document say about each other. -/
structure WellFormed (doc : Document) : Prop where
  /-- From the first child on, the links lead through the children and end. -/
  follows : ∀ id, doc.Follows (doc.node id).firstChild (doc.children id)
  nodup_children : ∀ id, (doc.children id).Nodup
  /-- The children of a node are the nodes that have it as their parent. -/
  mem_children : ∀ parent id, id ∈ doc.children parent ↔ (doc.node id).parent = some parent
  previous_eq_some_iff : ∀ id k,
    (doc.node id).previous = some k ↔ (doc.node k).next = some id
  previous_firstChild : ∀ id first, (doc.node id).firstChild = some first →
    (doc.node first).previous = none
  lastChild_eq : ∀ id, (doc.node id).lastChild = (doc.children id).getLast?
  next_lastChild : ∀ id last, (doc.node id).lastChild = some last →
    (doc.node last).next = none
  /-- A node without parent has no siblings. -/
  unlinked : ∀ id, (doc.node id).parent = none →
    (doc.node id).previous = none ∧ (doc.node id).next = none
  /-- Going up from a node never comes back to it. -/
  acyclic : ∀ id, ¬ Relation.TransGen doc.IsParent id id

/-- Going from child to child one gets through a row. -/
theorem Row.follows {parent : NodeId} {previous first : Option NodeId} {ids : List NodeId}
    (hrow : doc.Row parent previous first ids) : doc.Follows first ids := by
  induction ids generalizing previous first with
  | nil => exact hrow.1
  | cons id rest ih => exact ⟨hrow.1, ih hrow.2.2.2⟩

/-- No node stands before the first child. -/
theorem Rows.previous_firstChild {rows : NodeId → List NodeId} (hrows : doc.Rows rows)
    {id first : NodeId} (hfirst : (doc.node id).firstChild = some first) :
    (doc.node first).previous = none := by
  rw [hrows.firstChild_eq] at hfirst
  obtain ⟨rest, hrow⟩ := List.head?_eq_some_iff.mp hfirst
  have hlinked := hrows.linked id
  rw [hrow] at hlinked
  exact hlinked.2.1

/-- No node stands behind the last child. -/
theorem Rows.next_lastChild {rows : NodeId → List NodeId} (hrows : doc.Rows rows)
    {id last : NodeId} (hlast : (doc.node id).lastChild = some last) :
    (doc.node last).next = none := by
  rw [hrows.lastChild_eq] at hlast
  obtain ⟨front, hrow⟩ := List.getLast?_eq_some_iff.mp hlast
  have hlinked := hrows.linked id
  rw [hrow] at hlinked
  exact (linked_append.mp hlinked).2.2.2.1

/-- All links of a forest agree with one another. -/
theorem IsForest.wellFormed (hforest : doc.IsForest) : doc.WellFormed where
  follows id := (hforest.rows.row id).follows
  nodup_children := hforest.rows.nodup
  mem_children _ _ := hforest.rows.mem_iff
  previous_eq_some_iff _ _ :=
    ⟨fun hprevious => (hforest.rows.parent_of_previous hprevious).choose_spec.2.2,
      fun hnext => (hforest.rows.parent_of_next hnext).choose_spec.2.2⟩
  previous_firstChild _ _ := hforest.rows.previous_firstChild
  lastChild_eq := hforest.rows.lastChild_eq
  next_lastChild _ _ := hforest.rows.next_lastChild
  unlinked _ := hforest.rows.unlinked
  acyclic id hcycle := hforest.grounded.transGen.asymmetric id id hcycle hcycle

/-- One edit of a document. -/
inductive Edit
  | addNode (element : Element)
  | appendChild (parent child : NodeId)
  | insertBefore (parent before child : NodeId)
  | detach (id : NodeId)
  | setElement (id : NodeId) (element : Element)
  | setLines (id : NodeId) (lines : List Value)
  | setBlankBefore (id : NodeId) (blankBefore : Bool)
  | setRange (id : NodeId) (range : Segment)
  deriving DecidableEq, Repr

namespace Edit

/-- The document after an edit. -/
def apply (doc : Document) : Edit → Document
  | addNode element => doc.addNode element
  | appendChild parent child => doc.appendChild parent child
  | insertBefore parent before child => doc.insertBefore parent before child
  | detach id => doc.detach id
  | setElement id element => doc.setElement id element
  | setLines id lines => doc.setLines id lines
  | setBlankBefore id blankBefore => doc.setBlankBefore id blankBefore
  | setRange id range => doc.setRange id range

/-- An edit names nodes of the document and moves none of them below itself; a child is
inserted before another child of the given parent. -/
def IsLegal (doc : Document) : Edit → Prop
  | addNode _ => True
  | appendChild parent child =>
      parent < doc.size ∧ child < doc.size ∧ ¬ doc.IsAbove child parent
  | insertBefore parent before child =>
      child < doc.size ∧ doc.IsParent parent before ∧ before ≠ child ∧
        ¬ doc.IsAbove child parent
  | detach id | setElement id _ | setLines id _ | setBlankBefore id _ | setRange id _ =>
      id < doc.size

/-- Each edit is legal in the document that the ones before it leave. -/
def AllLegal (doc : Document) : List Edit → Prop
  | [] => True
  | edit :: rest => edit.IsLegal doc ∧ AllLegal (edit.apply doc) rest

/-- A legal edit makes a forest of a forest. -/
theorem isForest_apply {edit : Edit} (hforest : doc.IsForest) (hlegal : edit.IsLegal doc) :
    (edit.apply doc).IsForest := by
  cases edit with
  | addNode element => exact hforest.addNode element
  | appendChild parent child =>
      obtain ⟨hparent, hchild, habove⟩ := hlegal
      exact hforest.appendChild hparent hchild habove
  | insertBefore parent before child =>
      obtain ⟨hchild, hbefore, hne, habove⟩ := hlegal
      exact hforest.insertBefore hchild hbefore hne habove
  | detach id => exact hforest.detach hlegal
  | setElement id element => exact hforest.modify id fun _ => ⟨rfl, rfl, rfl, rfl, rfl⟩
  | setLines id lines => exact hforest.modify id fun _ => ⟨rfl, rfl, rfl, rfl, rfl⟩
  | setBlankBefore id blankBefore => exact hforest.modify id fun _ => ⟨rfl, rfl, rfl, rfl, rfl⟩
  | setRange id range => exact hforest.modify id fun _ => ⟨rfl, rfl, rfl, rfl, rfl⟩

/-- So do legal edits one after the other. -/
theorem isForest_foldl {edits : List Edit} (hforest : doc.IsForest)
    (hlegal : AllLegal doc edits) : (edits.foldl apply doc).IsForest := by
  induction edits generalizing doc with
  | nil => exact hforest
  | cons edit rest ih => exact ih (isForest_apply hforest hlegal.1) hlegal.2

/-- After every history of legal edits the links of a document are well-formed. -/
theorem wellFormed_foldl_empty (edits : List Edit) (hlegal : AllLegal .empty edits) :
    (edits.foldl apply .empty).WellFormed :=
  (isForest_foldl .empty hlegal).wellFormed

/-- An item changes places with the one before it, takes it in and moves up before the
list. -/
def rearranging : List Edit :=
  [.addNode (.list 45 true 0), .addNode .listItem, .addNode .listItem, .appendChild 0 1,
    .appendChild 1 2, .appendChild 1 3, .insertBefore 1 2 3, .detach 2, .appendChild 3 2,
    .insertBefore 0 1 3, .setElement 3 .blockquote]

/-- Nodes are put in, moved into one another, taken out and put back. -/
theorem wellFormed_foldl_empty_rearranging :
    AllLegal .empty rearranging ∧ (rearranging.foldl apply .empty).WellFormed := by
  have hlegal : AllLegal .empty rearranging := by
    refine ⟨trivial, trivial, trivial, ⟨by decide, by decide, ?first⟩,
      ⟨by decide, by decide, ?second⟩, ⟨by decide, by decide, ?third⟩,
      ⟨by decide, rfl, by decide, ?swap⟩, by show _ < _; decide, ⟨by decide, by decide, ?takeIn⟩,
      ⟨by decide, rfl, by decide, ?moveUp⟩, by show _ < _; decide, trivial⟩
    case first | moveUp => exact not_isAbove_of_top rfl (by decide)
    case second | third | swap =>
      exact not_isAbove_of_parent rfl (by decide) (not_isAbove_of_top rfl (by decide))
    case takeIn =>
      exact not_isAbove_of_parent rfl (by decide)
        (not_isAbove_of_parent rfl (by decide) (not_isAbove_of_top rfl (by decide)))
  exact ⟨hlegal, wellFormed_foldl_empty rearranging hlegal⟩

end Edit

end Document

end MarkdownFormat
