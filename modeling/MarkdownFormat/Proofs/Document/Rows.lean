/-
# Rows of children

Which nodes stand below which, and in what order, is all that the links of a document
say. `Document.Rows` says it: below each node stand the nodes of its row, linked to the
node and to their neighbours, and what stands nowhere is not linked to anything. Taking
a node out takes it out of its row, and linking it in puts it into one.
-/

import Mathlib.Data.List.Nodup
import MarkdownFormat.Proofs.Document.Edit
import MarkdownFormat.Proofs.Document.Tree

namespace MarkdownFormat.Document

variable {doc changed : Document}

/-- The nodes follow one another below a node, from the one behind `previous` to the one
before `after`. -/
def Linked (doc : Document) (parent : NodeId) (previous after : Option NodeId) :
    List NodeId → Prop
  | [] => True
  | id :: rest =>
      (doc.node id).parent = some parent ∧ (doc.node id).previous = previous ∧
        (doc.node id).next = rest.head?.or after ∧ Linked doc parent (some id) after rest

/-- A node has the same parent and the same neighbours in both documents. -/
def SamePlace (doc changed : Document) (id : NodeId) : Prop :=
  (changed.node id).parent = (doc.node id).parent ∧
    (changed.node id).previous = (doc.node id).previous ∧
      (changed.node id).next = (doc.node id).next

/-- A node has all the links it has in the other document. -/
def SameLinks (doc changed : Document) (id : NodeId) : Prop :=
  doc.SamePlace changed id ∧ (changed.node id).firstChild = (doc.node id).firstChild ∧
    (changed.node id).lastChild = (doc.node id).lastChild

/-- A node that stays as it is keeps its links. -/
theorem sameLinks_of_eq {id : NodeId} (hnode : changed.node id = doc.node id) :
    doc.SameLinks changed id := by
  simp [SameLinks, SamePlace, hnode]

section Linked

variable {parent : NodeId} {previous after : Option NodeId}

/-- A row is linked if its parts are, and to one another. -/
theorem linked_append {front back : List NodeId} :
    doc.Linked parent previous after (front ++ back) ↔
      doc.Linked parent previous (back.head?.or after) front ∧
        doc.Linked parent (front.getLast?.or previous) after back := by
  induction front generalizing previous with
  | nil => simp [Linked]
  | cons id front ih =>
      rw [List.cons_append, Linked, Linked, ih, List.head?_append, Option.or_assoc,
        List.getLast?_cons]
      cases hlast : front.getLast? <;> simp [and_assoc]

/-- All nodes of a row have the same parent. -/
theorem Linked.parent_eq {ids : List NodeId} (hlinked : doc.Linked parent previous after ids)
    {id : NodeId} (hid : id ∈ ids) : (doc.node id).parent = some parent := by
  induction ids generalizing previous with
  | nil => cases hid
  | cons head rest ih =>
      rcases List.mem_cons.mp hid with rfl | hrest
      · exact hlinked.1
      · exact ih hlinked.2.2.2 hrest

/-- Where its nodes stand is all that counts for a row. -/
theorem Linked.congr {ids : List NodeId} (hlinked : doc.Linked parent previous after ids)
    (hsame : ∀ k ∈ ids, doc.SamePlace changed k) : changed.Linked parent previous after ids := by
  induction ids generalizing previous with
  | nil => trivial
  | cons id rest ih =>
      obtain ⟨hparent, hprevious, hnext⟩ := hsame id List.mem_cons_self
      rw [Linked, hparent, hprevious, hnext]
      refine ⟨hlinked.1, hlinked.2.1, hlinked.2.2.1, ih hlinked.2.2.2 ?_⟩
      exact fun k hk => hsame k (List.mem_cons_of_mem _ hk)

/-- Nodes that get another neighbour behind the last of them. -/
theorem Linked.change_after {newAfter : Option NodeId} {ids : List NodeId}
    (hlinked : doc.Linked parent previous after ids) (hnodup : ids.Nodup)
    (hparent : ∀ k ∈ ids, (changed.node k).parent = (doc.node k).parent)
    (hprevious : ∀ k ∈ ids, (changed.node k).previous = (doc.node k).previous)
    (hnext : ∀ k ∈ ids, (changed.node k).next =
      if ids.getLast? = some k then newAfter else (doc.node k).next) :
    changed.Linked parent previous newAfter ids := by
  rcases List.eq_nil_or_concat' ids with rfl | ⟨front, last, rfl⟩
  · trivial
  have hmem : last ∈ front ++ [last] := List.mem_append_right _ List.mem_cons_self
  obtain ⟨hfront, hup, hleft, -⟩ := linked_append.mp hlinked
  refine linked_append.mpr ⟨hfront.congr ?_, ?_, ?_, ?_, trivial⟩
  · intro k hk
    have hne : last ≠ k := fun heq => List.disjoint_of_nodup_append hnodup hk (by simp [heq])
    have hk := List.mem_append_left [last] hk
    refine ⟨hparent k hk, hprevious k hk, ?_⟩
    rw [hnext k hk, if_neg (by simpa using hne)]
  · rw [hparent last hmem, hup]
  · rw [hprevious last hmem, hleft]
  · rw [hnext last hmem, if_pos (by simp)]
    rfl

/-- Nodes that get another neighbour before the first of them. -/
theorem Linked.change_previous {newPrevious : Option NodeId} {ids : List NodeId}
    (hlinked : doc.Linked parent previous after ids) (hnodup : ids.Nodup)
    (hparent : ∀ k ∈ ids, (changed.node k).parent = (doc.node k).parent)
    (hprevious : ∀ k ∈ ids, (changed.node k).previous =
      if ids.head? = some k then newPrevious else (doc.node k).previous)
    (hnext : ∀ k ∈ ids, (changed.node k).next = (doc.node k).next) :
    changed.Linked parent newPrevious after ids := by
  cases ids with
  | nil => trivial
  | cons head rest =>
      obtain ⟨hup, -, hright, hrest⟩ := hlinked
      refine ⟨?_, ?_, ?_, hrest.congr ?_⟩
      · rw [hparent head List.mem_cons_self, hup]
      · rw [hprevious head List.mem_cons_self, List.head?_cons, if_pos rfl]
      · rw [hnext head List.mem_cons_self, hright]
      · intro k hk
        have hne : head ≠ k := fun heq => (List.nodup_cons.mp hnodup).1 (heq ▸ hk)
        have hk := List.mem_cons_of_mem head hk
        refine ⟨hparent k hk, ?_, hnext k hk⟩
        rw [hprevious k hk, if_neg (by simpa using hne)]

/-- Two rows that get other neighbours where they meet. -/
theorem Linked.change_between {newPrevious newAfter : Option NodeId} {front back : List NodeId}
    (hfront : doc.Linked parent none after front) (hback : doc.Linked parent previous none back)
    (hnodup : (front ++ back).Nodup)
    (hparent : ∀ k ∈ front ++ back, (changed.node k).parent = (doc.node k).parent)
    (hprevious : ∀ k ∈ front ++ back, (changed.node k).previous =
      if back.head? = some k then newPrevious else (doc.node k).previous)
    (hnext : ∀ k ∈ front ++ back, (changed.node k).next =
      if front.getLast? = some k then newAfter else (doc.node k).next) :
    changed.Linked parent none newAfter front ∧ changed.Linked parent newPrevious none back := by
  have hdisjoint := List.disjoint_of_nodup_append hnodup
  obtain ⟨hfrontNodup, hbackNodup, -⟩ := List.nodup_append.mp hnodup
  rw [List.forall_mem_append] at hparent hprevious hnext
  constructor
  · apply hfront.change_after hfrontNodup hparent.1 ?_ hnext.1
    intro k hk
    rw [hprevious.1 k hk, if_neg]
    exact fun hhead => hdisjoint hk (List.mem_of_head? hhead)
  · apply hback.change_previous hbackNodup hparent.2 hprevious.2
    intro k hk
    rw [hnext.2 k hk, if_neg]
    exact fun hlast => hdisjoint (List.mem_of_getLast? hlast) hk

/-- Linked nodes with the last child at their end are all the children there are. -/
theorem Linked.row {ids : List NodeId} (hlinked : doc.Linked parent previous none ids)
    (hlast : (doc.node parent).lastChild = ids.getLast?.or previous) :
    doc.Row parent previous ids.head? ids := by
  induction ids generalizing previous with
  | nil => exact ⟨rfl, hlast⟩
  | cons id rest ih =>
      obtain ⟨hparent, hprevious, hnext, hrest⟩ := hlinked
      refine ⟨rfl, hparent, hprevious, ?_⟩
      rw [hnext, Option.or_none]
      apply ih hrest
      rw [hlast, List.getLast?_cons]
      cases rest.getLast? <;> rfl

end Linked

/-- A node with a parent is there. -/
theorem lt_size_of_parent {id parent : NodeId} (hparent : (doc.node id).parent = some parent) :
    id < doc.size := by
  by_contra hid
  rw [node_of_size_le (Nat.le_of_not_lt hid)] at hparent
  cases hparent

/-- Below each node stand the nodes of its row, and nothing else is linked. -/
structure Rows (doc : Document) (rows : NodeId → List NodeId) : Prop where
  linked : ∀ id, doc.Linked id none none (rows id)
  firstChild_eq : ∀ id, (doc.node id).firstChild = (rows id).head?
  lastChild_eq : ∀ id, (doc.node id).lastChild = (rows id).getLast?
  mem_of_parent : ∀ {id parent}, (doc.node id).parent = some parent →
    parent < doc.size ∧ id ∈ rows parent
  unlinked : ∀ {id}, (doc.node id).parent = none →
    (doc.node id).previous = none ∧ (doc.node id).next = none

namespace Rows

variable {rows : NodeId → List NodeId} (hrows : doc.Rows rows)
include hrows

/-- The row of a node is found from its first child on. -/
theorem row (id : NodeId) : doc.Row id none (doc.node id).firstChild (rows id) := by
  rw [hrows.firstChild_eq]
  apply (hrows.linked id).row
  rw [hrows.lastChild_eq, Option.or_none]

/-- No node stands in a row twice. -/
theorem nodup (id : NodeId) : (rows id).Nodup :=
  (hrows.row id).nodup

/-- The nodes with a parent are those in its row. -/
theorem mem_iff {id parent : NodeId} :
    id ∈ rows parent ↔ (doc.node id).parent = some parent :=
  ⟨fun hid => (hrows.linked parent).parent_eq hid, fun hparent => (hrows.mem_of_parent hparent).2⟩

/-- Nodes in rows are there. -/
theorem lt_size {id parent : NodeId} (hid : id ∈ rows parent) : id < doc.size :=
  lt_size_of_parent (hrows.mem_iff.mp hid)

/-- The children are the row. -/
theorem children_eq (id : NodeId) : doc.children id = rows id :=
  (hrows.row id).siblingsFrom (length_le_size (hrows.nodup id) fun _ hk => hrows.lt_size hk)

/-- What does not touch a link keeps the rows. -/
theorem congr (hsize : doc.size ≤ changed.size) (hsame : ∀ k, doc.SameLinks changed k) :
    changed.Rows rows where
  linked id := (hrows.linked id).congr fun k _ => (hsame k).1
  firstChild_eq id := by rw [(hsame id).2.1, hrows.firstChild_eq]
  lastChild_eq id := by rw [(hsame id).2.2, hrows.lastChild_eq]
  mem_of_parent {id _} hparent := by
    rw [(hsame id).1.1] at hparent
    obtain ⟨hlt, hmem⟩ := hrows.mem_of_parent hparent
    exact ⟨Nat.lt_of_lt_of_le hlt hsize, hmem⟩
  unlinked {id} hparent := by
    obtain ⟨hup, hleft, hright⟩ := (hsame id).1
    rw [hleft, hright]
    exact hrows.unlinked (hup ▸ hparent)

/-- A node stands somewhere in the row of its parent, between its neighbours. -/
theorem exists_split {id parent : NodeId} (hparent : (doc.node id).parent = some parent) :
    ∃ front back, rows parent = front ++ id :: back ∧
      (doc.node id).previous = front.getLast? ∧ (doc.node id).next = back.head? := by
  obtain ⟨front, back, hsplit⟩ := List.append_of_mem (hrows.mem_iff.mpr hparent)
  have hlinked := hrows.linked parent
  rw [hsplit] at hlinked
  obtain ⟨-, -, hprevious, hnext, -⟩ := linked_append.mp hlinked
  exact ⟨front, back, hsplit, by simpa using hprevious, by simpa using hnext⟩

/-- Neighbours have the same parent, and the one before links to the one behind. -/
theorem parent_of_previous {id k : NodeId} (hprevious : (doc.node id).previous = some k) :
    ∃ parent, (doc.node id).parent = some parent ∧ k ∈ rows parent ∧
      (doc.node k).next = some id := by
  cases hparent : (doc.node id).parent with
  | none => simp [(hrows.unlinked hparent).1] at hprevious
  | some parent =>
      obtain ⟨front, back, hsplit, hfront, -⟩ := hrows.exists_split hparent
      rw [hprevious] at hfront
      obtain ⟨init, rfl⟩ := List.getLast?_eq_some_iff.mp hfront.symm
      refine ⟨parent, rfl, by simp [hsplit], ?_⟩
      have hlinked := hrows.linked parent
      rw [hsplit, List.append_assoc] at hlinked
      exact (linked_append.mp hlinked).2.2.2.1

/-- The one behind links to the one before. -/
theorem parent_of_next {id k : NodeId} (hnext : (doc.node id).next = some k) :
    ∃ parent, (doc.node id).parent = some parent ∧ k ∈ rows parent ∧
      (doc.node k).previous = some id := by
  cases hparent : (doc.node id).parent with
  | none => simp [(hrows.unlinked hparent).2] at hnext
  | some parent =>
      obtain ⟨front, back, hsplit, -, hback⟩ := hrows.exists_split hparent
      rw [hnext] at hback
      obtain ⟨rest, rfl⟩ := List.head?_eq_some_iff.mp hback.symm
      refine ⟨parent, rfl, by simp [hsplit], ?_⟩
      have hlinked := hrows.linked parent
      rw [hsplit] at hlinked
      exact (linked_append.mp hlinked).2.2.2.2.2.1

/-- The neighbour before is there. -/
theorem previous_lt_size {id k : NodeId} (hprevious : (doc.node id).previous = some k) :
    k < doc.size := by
  obtain ⟨parent, -, hk, -⟩ := hrows.parent_of_previous hprevious
  exact hrows.lt_size hk

/-- The neighbour behind is there. -/
theorem next_lt_size {id k : NodeId} (hnext : (doc.node id).next = some k) :
    k < doc.size := by
  obtain ⟨parent, -, hk, -⟩ := hrows.parent_of_next hnext
  exact hrows.lt_size hk

/-- A last child is there. -/
theorem lastChild_lt_size {id k : NodeId} (hlast : (doc.node id).lastChild = some k) :
    k < doc.size := by
  rw [hrows.lastChild_eq] at hlast
  exact hrows.lt_size (List.mem_of_getLast? hlast)

/-- Only the row below one node changes: what is in the new row was in the old one or
nowhere, and what leaves the old one is not linked any more. -/
theorem change {parent : NodeId} {row : List NodeId} (hsize : changed.size = doc.size)
    (hparent : parent < doc.size) (hlinked : changed.Linked parent none none row)
    (hfirst : (changed.node parent).firstChild = row.head?)
    (hlast : (changed.node parent).lastChild = row.getLast?)
    (hnew : ∀ k ∈ row, k ∈ rows parent ∨ (doc.node k).parent = none)
    (hgone : ∀ k ∈ rows parent, k ∉ row → (changed.node k).parent = none ∧
      (changed.node k).previous = none ∧ (changed.node k).next = none)
    (hends : ∀ k ≠ parent, (changed.node k).firstChild = (doc.node k).firstChild ∧
      (changed.node k).lastChild = (doc.node k).lastChild)
    (hsame : ∀ k, k ∉ rows parent → k ∉ row → doc.SamePlace changed k) :
    changed.Rows (Function.update rows parent row) where
  linked id := by
    by_cases hid : id = parent
    · rw [hid, Function.update_self]
      exact hlinked
    · rw [Function.update_of_ne hid]
      apply (hrows.linked id).congr
      intro k hk
      have hup := hrows.mem_iff.mp hk
      have hold : k ∉ rows parent := by
        rw [hrows.mem_iff, hup, Option.some.injEq]
        exact hid
      apply hsame k hold
      intro hrow
      have hnone := (hnew k hrow).resolve_left hold
      rw [hup] at hnone
      cases hnone
  firstChild_eq id := by
    by_cases hid : id = parent
    · rw [hid, Function.update_self, hfirst]
    · rw [Function.update_of_ne hid, (hends id hid).1, hrows.firstChild_eq]
  lastChild_eq id := by
    by_cases hid : id = parent
    · rw [hid, Function.update_self, hlast]
    · rw [Function.update_of_ne hid, (hends id hid).2, hrows.lastChild_eq]
  mem_of_parent {id other} hup := by
    rw [hsize]
    by_cases hrow : id ∈ row
    · rw [hlinked.parent_eq hrow] at hup
      cases hup
      exact ⟨hparent, by rwa [Function.update_self]⟩
    · by_cases hold : id ∈ rows parent
      · rw [(hgone id hold hrow).1] at hup
        cases hup
      · rw [(hsame id hold hrow).1] at hup
        obtain ⟨hlt, hmem⟩ := hrows.mem_of_parent hup
        refine ⟨hlt, ?_⟩
        rwa [Function.update_of_ne]
        rintro rfl
        exact hold hmem
  unlinked {id} hup := by
    by_cases hrow : id ∈ row
    · rw [hlinked.parent_eq hrow] at hup
      cases hup
    · by_cases hold : id ∈ rows parent
      · exact (hgone id hold hrow).2
      · obtain ⟨hparent, hleft, hright⟩ := hsame id hold hrow
        rw [hleft, hright]
        exact hrows.unlinked (hparent ▸ hup)

/-- A node stands in one row only, so taking it out of all rows changes that row alone. -/
theorem erase_eq_update {id parent : NodeId} (hparent : (doc.node id).parent = some parent)
    {front back : List NodeId} (hsplit : rows parent = front ++ id :: back) :
    (fun other => (rows other).erase id) = Function.update rows parent (front ++ back) := by
  have hnodup := hrows.nodup parent
  rw [hsplit] at hnodup
  have hmem := (List.nodup_cons.mp (List.nodup_middle.mp hnodup)).1
  funext other
  by_cases hother : other = parent
  · rw [hother, Function.update_self, hsplit, List.erase_append_right _ fun h =>
      hmem (List.mem_append_left _ h), List.erase_cons_head]
  · rw [Function.update_of_ne hother, List.erase_of_not_mem]
    rw [hrows.mem_iff, hparent, Option.some.injEq]
    exact Ne.symm hother

/-- Taking a node out takes it out of the row it stands in. -/
theorem detach {id : NodeId} (hid : id < doc.size) :
    (doc.detach id).Rows fun parent => (rows parent).erase id := by
  have hnode := node_detach hid (fun _ h => (hrows.mem_of_parent h).1)
    (fun _ h => hrows.previous_lt_size h) (fun _ h => hrows.next_lt_size h)
  cases hparent : (doc.node id).parent with
  | none =>
      have hrow : (fun parent => (rows parent).erase id) = rows := by
        funext parent
        apply List.erase_of_not_mem
        rw [hrows.mem_iff, hparent]
        simp
      obtain ⟨hprevious, hnext⟩ := hrows.unlinked hparent
      have hsame := node_detach_of_unlinked hparent hprevious hnext
      rw [hrow]
      exact hrows.congr (by simp) fun k => by simp [SameLinks, SamePlace, hsame]
  | some parent =>
      obtain ⟨front, back, hsplit, hprevious, hnext⟩ := hrows.exists_split hparent
      have hlinked := hrows.linked parent
      have hnodup := hrows.nodup parent
      rw [hsplit] at hlinked hnodup
      obtain ⟨hfront, -, -, -, hback⟩ := linked_append.mp hlinked
      obtain ⟨hmem, hnodup⟩ := List.nodup_cons.mp (List.nodup_middle.mp hnodup)
      have hne : ∀ k ∈ front ++ back, k ≠ id := fun k hk heq => hmem (heq ▸ hk)
      rw [hprevious, hnext, hparent] at hnode
      have hclosed : (doc.detach id).Linked parent none back.head? front ∧
          (doc.detach id).Linked parent front.getLast? none back :=
        Linked.change_between hfront hback hnodup
        (fun k hk => by simp only [hnode, if_neg (hne k hk)])
        (fun k hk => by simp only [hnode, if_neg (hne k hk)])
        (fun k hk => by simp only [hnode, if_neg (hne k hk)])
      rw [hrows.erase_eq_update hparent hsplit]
      apply hrows.change (size_detach id) (hrows.mem_of_parent hparent).1
      · exact linked_append.mpr (by simpa using hclosed)
      · rw [hnode, hrows.firstChild_eq, hsplit]
        cases front <;> simp
      · rw [hnode, hrows.lastChild_eq, hsplit]
        cases back <;> simp
      · intro k hk
        exact .inl (hsplit ▸ List.mem_append.mpr ((List.mem_append.mp hk).imp_right
          (List.mem_cons_of_mem id)))
      · intro k hk hgone
        have hk : k = id := by
          rw [hsplit] at hk
          simp at hk hgone
          tauto
        rw [hnode]
        simp [hk]
      · intro k hk
        rw [hnode]
        simp [Ne.symm hk]
      · intro k hk _
        rw [hsplit] at hk
        have hhead : back.head? ≠ some k := fun h => hk (by simp [List.mem_of_head? h])
        have hlast : front.getLast? ≠ some k := fun h => hk (by simp [List.mem_of_getLast? h])
        have hother : k ≠ id := fun h => hk (by simp [h])
        simp [SamePlace, hnode, hhead, hlast, hother]

/-- Linking a node in puts it between its neighbours. -/
theorem link {parent child : NodeId} (hparent : parent < doc.size) (hchild : child < doc.size)
    (hunlinked : (doc.node child).parent = none) {front back : List NodeId}
    (hsplit : rows parent = front ++ back) :
    (doc.link parent child front.getLast? back.head?).Rows
      (Function.update rows parent (front ++ child :: back)) := by
  have hmember : ∀ k ∈ front ++ back, k < doc.size ∧ k ≠ child := by
    intro k hk
    rw [← hsplit] at hk
    refine ⟨hrows.lt_size hk, ?_⟩
    rintro rfl
    rw [hrows.mem_iff, hunlinked] at hk
    cases hk
  have hnode := node_link hparent hchild
    (fun k hk => (hmember k (List.mem_append_left _ (List.mem_of_getLast? hk))).1)
    (fun k hk => (hmember k (List.mem_append_right _ (List.mem_of_head? hk))).1)
  have hlinked := hrows.linked parent
  have hnodup := hrows.nodup parent
  rw [hsplit] at hlinked hnodup
  obtain ⟨hfront, hback⟩ := linked_append.mp hlinked
  have hopened :
      (doc.link parent child front.getLast? back.head?).Linked parent none (some child) front ∧
      (doc.link parent child front.getLast? back.head?).Linked parent (some child) none back :=
    Linked.change_between hfront hback hnodup
    (fun k hk => by simp only [hnode, if_neg (hmember k hk).2])
    (fun k hk => by simp only [hnode, if_neg (hmember k hk).2])
    (fun k hk => by simp only [hnode, if_neg (hmember k hk).2])
  apply hrows.change (size_link ..) hparent
  · have hhead : back.head? ≠ some child := fun h =>
      (hmember _ (List.mem_append_right _ (List.mem_of_head? h))).2 rfl
    have hlast : front.getLast? ≠ some child := fun h =>
      (hmember _ (List.mem_append_left _ (List.mem_of_getLast? h))).2 rfl
    refine linked_append.mpr ⟨by simpa using hopened.1, ?_, ?_, ?_, hopened.2⟩
    · rw [hnode, if_pos rfl]
    · simp [hnode, hhead]
    · simp [hnode, hlast]
  · rw [hnode, hrows.firstChild_eq, hsplit]
    cases front <;> simp
  · rw [hnode, hrows.lastChild_eq, hsplit]
    cases back <;> simp
  · intro k hk
    rw [hsplit]
    rcases List.mem_cons.mp (List.perm_middle.mem_iff.mp hk) with rfl | hk
    · exact .inr hunlinked
    · exact .inl hk
  · intro k hk hgone
    rw [hsplit] at hk
    exact absurd (List.perm_middle.mem_iff.mpr (List.mem_cons_of_mem child hk)) hgone
  · intro k hk
    rw [hnode]
    simp [hk]
  · intro k hk hnew
    rw [hsplit] at hk
    have hhead : back.head? ≠ some k := fun h => hk (by simp [List.mem_of_head? h])
    have hlast : front.getLast? ≠ some k := fun h => hk (by simp [List.mem_of_getLast? h])
    have hother : k ≠ child := fun h => hnew (by simp [h])
    simp [SamePlace, hnode, hhead, hlast, hother]

/-- Detaching takes away one parent and no other. -/
theorem parent_detach {id : NodeId} (hid : id < doc.size) (k : NodeId) :
    ((doc.detach id).node k).parent = if k = id then none else (doc.node k).parent := by
  rw [node_detach hid (fun _ h => (hrows.mem_of_parent h).1)
    (fun _ h => hrows.previous_lt_size h) (fun _ h => hrows.next_lt_size h)]

section Moves

variable {parent child : NodeId} (hparent : parent < doc.size) (hchild : child < doc.size)
include hparent hchild

/-- Where a child is appended: behind the last child, in the document without it. -/
theorem node_appendChild (k : NodeId) : (doc.appendChild parent child).node k =
    ((doc.detach child).link parent child ((rows parent).erase child).getLast? none).node k := by
  have hdetached := hrows.detach hchild
  have hunlinked := hdetached.unlinked ((hrows.parent_detach hchild child).trans (if_pos rfl))
  rw [Document.node_appendChild hparent hchild hunlinked.2, hdetached.lastChild_eq]
  intro k hlast
  rw [← size_detach child]
  exact hdetached.lastChild_lt_size hlast

/-- Where a child is inserted: before the given one, in the document without it. -/
theorem node_insertBefore {before : NodeId} {front back : List NodeId}
    (hsplit : (rows parent).erase child = front ++ before :: back) (k : NodeId) :
    (doc.insertBefore parent before child).node k =
      ((doc.detach child).link parent child front.getLast? (some before)).node k := by
  have hdetached := hrows.detach hchild
  have hlinked := hdetached.linked parent
  rw [hsplit] at hlinked
  have hprevious := (linked_append.mp hlinked).2.2.1
  rw [Option.or_none] at hprevious
  have hmem : before ∈ (rows parent).erase child := by simp [hsplit]
  rw [Document.node_insertBefore hparent hchild (hrows.lt_size (List.mem_of_mem_erase hmem)),
    hprevious]
  intro k hk
  rw [← size_detach child]
  exact hdetached.previous_lt_size hk

/-- Appending a child takes it out of its row and puts it at the end of another. -/
theorem appendChild : (doc.appendChild parent child).Rows
    (Function.update (fun id => (rows id).erase child) parent
      ((rows parent).erase child ++ [child])) := by
  have hdetached := hrows.detach hchild
  have hunlinked := (hrows.parent_detach hchild child).trans (if_pos rfl)
  have hlinked := hdetached.link (Nat.lt_of_lt_of_eq hparent (size_detach child).symm)
    (Nat.lt_of_lt_of_eq hchild (size_detach child).symm) hunlinked (List.append_nil _).symm
  exact hlinked.congr (by simp) fun k =>
    sameLinks_of_eq (hrows.node_appendChild hparent hchild k)

/-- Inserting a child takes it out of its row and puts it into another. -/
theorem insertBefore {before : NodeId} {front back : List NodeId}
    (hsplit : (rows parent).erase child = front ++ before :: back) :
    (doc.insertBefore parent before child).Rows
      (Function.update (fun id => (rows id).erase child) parent
        (front ++ child :: before :: back)) := by
  have hdetached := hrows.detach hchild
  have hunlinked := (hrows.parent_detach hchild child).trans (if_pos rfl)
  have hlinked := hdetached.link (Nat.lt_of_lt_of_eq hparent (size_detach child).symm)
    (Nat.lt_of_lt_of_eq hchild (size_detach child).symm) hunlinked hsplit
  exact hlinked.congr (by simp) fun k =>
    sameLinks_of_eq (hrows.node_insertBefore hparent hchild hsplit k)

end Moves

end Rows

end MarkdownFormat.Document
