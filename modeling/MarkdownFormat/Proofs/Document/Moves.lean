/-
# Moves as edits of lists

The links of a well-formed document say no more than which children each node has, and in
what order. So a move can be told by the lists alone: it takes a node out of the one that
it stands in and puts it into another, and a node that is put back where it was leaves
every link as it was.
-/

import Mathlib.Order.WellFoundedSet
import MarkdownFormat.Proofs.Document.History

namespace MarkdownFormat.Document

variable {doc changed : Document}

/-- The nodes that follow from the first child on start with it. -/
theorem Follows.head?_eq {first : Option NodeId} {ids : List NodeId}
    (hfollows : doc.Follows first ids) : first = ids.head? := by
  cases ids with
  | nil => exact hfollows
  | cons id rest => exact hfollows.1

/-- Nodes that the links to the next lead through are linked, where the links back agree. -/
theorem Follows.linked {parent : NodeId} {first previous : Option NodeId} {ids : List NodeId}
    (hfollows : doc.Follows first ids) (hparent : ∀ id ∈ ids, doc.IsParent parent id)
    (hprevious : ∀ id ∈ ids.head?, (doc.node id).previous = previous)
    (hback : ∀ id k, (doc.node id).next = some k → (doc.node k).previous = some id) :
    doc.Linked parent previous none ids := by
  induction ids generalizing first previous with
  | nil => trivial
  | cons id rest ih =>
      have hnext := hfollows.2.head?_eq
      refine ⟨hparent id List.mem_cons_self, hprevious id rfl, by rw [hnext, Option.or_none],
        ih hfollows.2 (fun k hk => hparent k (List.mem_cons_of_mem id hk)) fun k hk => ?_⟩
      exact hback id k (hnext.trans hk)

namespace WellFormed

variable (hwellFormed : doc.WellFormed)
include hwellFormed

/-- The children of each node are its row. -/
theorem rows : doc.Rows doc.children where
  linked id := by
    apply (hwellFormed.follows id).linked
    · exact fun k hk => (hwellFormed.mem_children id k).mp hk
    · intro k hk
      exact hwellFormed.previous_firstChild id k ((hwellFormed.follows id).head?_eq.trans hk)
    · exact fun k next hnext => (hwellFormed.previous_eq_some_iff next k).mpr hnext
  firstChild_eq id := (hwellFormed.follows id).head?_eq
  lastChild_eq := hwellFormed.lastChild_eq
  mem_of_parent {id parent} hparent := by
    have hmem := (hwellFormed.mem_children parent id).mpr hparent
    refine ⟨?_, hmem⟩
    by_contra hlt
    have hnone : (doc.node parent).firstChild = none := by
      rw [node_of_size_le (Nat.le_of_not_lt hlt)]
    have hhead := (hwellFormed.follows parent).head?_eq
    rw [hnone, eq_comm, List.head?_eq_none_iff] at hhead
    rw [hhead] at hmem
    cases hmem
  unlinked {id} := hwellFormed.unlinked id

/-- No node is its own child. -/
theorem ne_of_isParent {parent id : NodeId} (hparent : doc.IsParent parent id) : id ≠ parent := by
  rintro rfl
  exact hwellFormed.acyclic id (.single hparent)

/-- A node stands in no other list than its parent's. -/
theorem notMem_children {parent id other : NodeId} (hparent : doc.IsParent parent id)
    (hother : other ≠ parent) : id ∉ doc.children other := by
  rw [hwellFormed.mem_children, hparent, Option.some.injEq]
  exact Ne.symm hother

section Split

variable {parent id : NodeId} {front back : List NodeId}
  (hsplit : doc.children parent = front ++ id :: back)
include hsplit

/-- A node among the children has the parent. -/
theorem isParent_of_split : doc.IsParent parent id := by
  apply (hwellFormed.mem_children parent id).mp
  rw [hsplit]
  exact List.mem_append_right _ List.mem_cons_self

/-- It stands among them once. -/
theorem notMem_of_split : id ∉ front ++ back := by
  have hnodup := hwellFormed.nodup_children parent
  rw [hsplit] at hnodup
  exact (List.nodup_cons.mp (List.nodup_middle.mp hnodup)).1

/-- Taken out, it leaves those before it and those behind it. -/
theorem erase_of_split : (doc.children parent).erase id = front ++ back := by
  have hfront : id ∉ front := fun hmem =>
    hwellFormed.notMem_of_split hsplit (List.mem_append_left back hmem)
  rw [hsplit, List.erase_append_right _ hfront, List.erase_cons_head]

end Split

/-- Among finitely many nodes there is no way up without end, as none comes back. -/
theorem isForest : doc.IsForest where
  rows := hwellFormed.rows
  grounded := by
    have horder : IsStrictOrder NodeId (Relation.TransGen doc.IsParent) :=
      { irrefl := hwellFormed.acyclic
        trans := fun _ _ _ => Relation.TransGen.trans }
    have hfinite := (Set.finite_lt_nat doc.size).wellFoundedOn (r := Relation.TransGen doc.IsParent)
    refine Subrelation.wf (fun {upper lower} hparent => ?_) (Set.wellFoundedOn_iff.mp hfinite)
    exact ⟨.single hparent, (hwellFormed.rows.mem_of_parent hparent).1, lt_size_of_parent hparent⟩

end WellFormed

namespace Rows

variable {rows : NodeId → List NodeId}

/-- The neighbours of a node are the ones in its row. -/
theorem neighbours (hrows : doc.Rows rows) {parent id : NodeId} {front back : List NodeId}
    (hsplit : rows parent = front ++ id :: back) :
    (doc.node id).previous = front.getLast? ∧ (doc.node id).next = back.head? := by
  have hlinked := hrows.linked parent
  rw [hsplit] at hlinked
  obtain ⟨-, -, hprevious, hnext, -⟩ := linked_append.mp hlinked
  exact ⟨by simpa using hprevious, by simpa using hnext⟩

/-- The rows say everything about the links. -/
theorem sameLinks (hrows : doc.Rows rows) (hchanged : changed.Rows rows) (id : NodeId) :
    doc.SameLinks changed id := by
  have hparent : (changed.node id).parent = (doc.node id).parent := by
    ext parent
    rw [← hrows.mem_iff, ← hchanged.mem_iff]
  refine ⟨⟨hparent, ?_⟩, ?_, ?_⟩
  · cases hnode : (doc.node id).parent with
    | none =>
        obtain ⟨hprevious, hnext⟩ := hrows.unlinked hnode
        rw [hprevious, hnext]
        exact hchanged.unlinked (hparent.trans hnode)
    | some parent =>
        obtain ⟨front, back, hsplit, hprevious, hnext⟩ := hrows.exists_split hnode
        rw [hprevious, hnext]
        exact hchanged.neighbours hsplit
  · rw [hrows.firstChild_eq, hchanged.firstChild_eq]
  · rw [hrows.lastChild_eq, hchanged.lastChild_eq]

end Rows

/-- Two documents of the same size with the same nodes are the same. -/
theorem ext_node (hsize : changed.size = doc.size) (hnode : ∀ id, changed.node id = doc.node id) :
    changed = doc := by
  obtain ⟨nodes⟩ := doc
  obtain ⟨others⟩ := changed
  rw [mk.injEq]
  apply Array.ext hsize
  intro k hothers hnodes
  have hk := hnode k
  rwa [node, node, Array.getD_eq_getD_getElem?, Array.getD_eq_getD_getElem?,
    Array.getElem?_eq_getElem hothers, Array.getElem?_eq_getElem hnodes] at hk

/-- Apart from the lists of children of some nodes, nothing is different: no other list, and
not what any node is. The links are in order. -/
structure SameOutside (doc changed : Document) (touched : Set NodeId) : Prop where
  wellFormed : changed.WellFormed
  size_eq : changed.size = doc.size
  label_eq : ∀ id, (changed.node id).label = (doc.node id).label
  children_eq : ∀ id ∉ touched, changed.children id = doc.children id

namespace SameOutside

variable {later : Document} {touched : Set NodeId}

/-- Nothing changes outside of anything if nothing changes. -/
theorem refl (hwellFormed : doc.WellFormed) (touched : Set NodeId) :
    doc.SameOutside doc touched :=
  ⟨hwellFormed, rfl, fun _ => rfl, fun _ _ => rfl⟩

/-- What does not change outside of some nodes does not outside of more. -/
theorem mono {wider : Set NodeId} (hsame : doc.SameOutside changed touched)
    (hwider : touched ⊆ wider) : doc.SameOutside changed wider :=
  { hsame with children_eq := fun k hk => hsame.children_eq k fun hmem => hk (hwider hmem) }

/-- What two changes leave alone they leave alone together. -/
theorem trans (hfirst : doc.SameOutside changed touched)
    (hsecond : changed.SameOutside later touched) : doc.SameOutside later touched where
  wellFormed := hsecond.wellFormed
  size_eq := hsecond.size_eq.trans hfirst.size_eq
  label_eq k := (hsecond.label_eq k).trans (hfirst.label_eq k)
  children_eq k hk := (hsecond.children_eq k hk).trans (hfirst.children_eq k hk)

end SameOutside

/-- Linking a node in changes no label. -/
theorem label_link {parent child : NodeId} {previous next : Option NodeId}
    (hparent : parent < doc.size) (hchild : child < doc.size)
    (hprevious : ∀ k, previous = some k → k < doc.size)
    (hnext : ∀ k, next = some k → k < doc.size) (id : NodeId) :
    ((doc.link parent child previous next).node id).label = (doc.node id).label := by
  rw [node_link hparent hchild hprevious hnext]
  rfl

namespace Rows

variable {rows : NodeId → List NodeId} (hrows : doc.Rows rows)
include hrows

/-- Detaching changes no label. -/
theorem label_detach {id : NodeId} (hid : id < doc.size) (k : NodeId) :
    ((doc.detach id).node k).label = (doc.node k).label := by
  rw [node_detach hid (fun _ h => (hrows.mem_of_parent h).1)
    (fun _ h => hrows.previous_lt_size h) (fun _ h => hrows.next_lt_size h)]
  rfl

variable {parent child : NodeId} (hparent : parent < doc.size) (hchild : child < doc.size)
include hparent hchild

/-- Appending changes no label. -/
theorem label_appendChild (k : NodeId) :
    ((doc.appendChild parent child).node k).label = (doc.node k).label := by
  rw [hrows.node_appendChild hparent hchild, label_link (by simpa using hparent)
    (by simpa using hchild) ?last (by simp), hrows.label_detach hchild]
  intro last hlast
  rw [size_detach]
  exact hrows.lt_size (List.mem_of_mem_erase (List.mem_of_getLast? hlast))

/-- Inserting changes no label. -/
theorem label_insertBefore {before : NodeId} {front back : List NodeId}
    (hsplit : (rows parent).erase child = front ++ before :: back) (k : NodeId) :
    ((doc.insertBefore parent before child).node k).label = (doc.node k).label := by
  have hmember : ∀ other ∈ front ++ before :: back, other < (doc.detach child).size := by
    intro other hother
    rw [← hsplit] at hother
    rw [size_detach]
    exact hrows.lt_size (List.mem_of_mem_erase hother)
  rw [hrows.node_insertBefore hparent hchild hsplit, label_link (by simpa using hparent)
    (by simpa using hchild) ?previous ?next, hrows.label_detach hchild]
  · intro previous hprevious
    exact hmember previous (List.mem_append_left _ (List.mem_of_getLast? hprevious))
  · rintro next ⟨⟩
    exact hmember before (List.mem_append_right _ List.mem_cons_self)

end Rows

namespace WellFormed

variable (hwellFormed : doc.WellFormed)
include hwellFormed

/-- Where the node that moves leaves all lists and comes into one, the lists that it neither
leaves nor comes into stay. -/
theorem sameOutside_of_move {parent child : NodeId} {row : List NodeId}
    (hmoved : changed.Rows (Function.update (fun id => (doc.children id).erase child) parent row))
    (hforest : changed.IsForest) (hsize : changed.size = doc.size)
    (hlabel : ∀ id, (changed.node id).label = (doc.node id).label) :
    changed.children parent = row ∧
      (∀ old ≠ parent, changed.children old = (doc.children old).erase child) ∧
      doc.SameOutside changed (insert parent {old | doc.IsParent old child}) := by
  have hold : ∀ old ≠ parent, changed.children old = (doc.children old).erase child := by
    intro old hold
    rw [hmoved.children_eq, Function.update_of_ne hold]
  refine ⟨by rw [hmoved.children_eq, Function.update_self], hold, hforest.wellFormed, hsize,
    hlabel, fun id hid => ?_⟩
  rw [Set.mem_insert_iff, not_or] at hid
  rw [hold id hid.1, List.erase_of_not_mem]
  exact fun hmem => hid.2 ((hwellFormed.mem_children id child).mp hmem)

/-- Detaching concerns the list that the node stands in, and no other. -/
theorem sameOutside_detach {child : NodeId} (hchild : child < doc.size) :
    (∀ old, (doc.detach child).children old = (doc.children old).erase child) ∧
      doc.SameOutside (doc.detach child) {old | doc.IsParent old child} := by
  have hrows := hwellFormed.rows
  have hold := (hrows.detach hchild).children_eq
  refine ⟨hold, (hwellFormed.isForest.detach hchild).wellFormed, size_detach child,
    hrows.label_detach hchild, fun id hid => ?_⟩
  rw [hold, List.erase_of_not_mem]
  exact fun hmem => hid ((hwellFormed.mem_children id child).mp hmem)

/-- What has all rows of a document again, after a node was taken out and put back, is that
document. -/
theorem eq_of_putBack {child : NodeId} (hchild : child < doc.size)
    (hrows : changed.Rows doc.children) (hsize : changed.size = (doc.detach child).size)
    (hlabel : ∀ id, (changed.node id).label = ((doc.detach child).node id).label) :
    changed = doc := by
  rw [size_detach] at hsize
  apply ext_node hsize
  intro id
  obtain ⟨⟨hparent, hprevious, hnext⟩, hfirst, hlast⟩ := hwellFormed.rows.sameLinks hrows id
  have hid := (hlabel id).trans (hwellFormed.rows.label_detach hchild id)
  rw [Node.label, Node.label, Label.mk.injEq] at hid
  obtain ⟨helement, hblank, hlines, hrange⟩ := hid
  cases hnode : changed.node id
  cases hsame : doc.node id
  simp_all

/-- A node that is not there can be taken out again, and what it left is its row without it. -/
theorem erase_erase {parent child : NodeId} {front back : List NodeId}
    (hsplit : doc.children parent = front ++ child :: back) :
    ((doc.children parent).erase child).erase child = front ++ back ∧
      Function.update (fun id => ((doc.children id).erase child).erase child) parent
        (front ++ child :: back) = doc.children := by
  have hparent := hwellFormed.isParent_of_split hsplit
  constructor
  · rw [hwellFormed.erase_of_split hsplit,
      List.erase_of_not_mem (hwellFormed.notMem_of_split hsplit)]
  · funext id
    by_cases hid : id = parent
    · rw [hid, Function.update_self, hsplit]
    · have hmem := hwellFormed.notMem_children hparent hid
      rw [Function.update_of_ne hid, List.erase_of_not_mem hmem, List.erase_of_not_mem hmem]

/-- A node can be taken out and put back before the next one. -/
theorem detach_insertBefore {parent next child : NodeId} (hparent : doc.IsParent parent child)
    (hnext : (doc.node child).next = some next) :
    (doc.detach child).insertBefore parent next child = doc := by
  have hchild := lt_size_of_parent hparent
  have hdetached := hwellFormed.rows.detach hchild
  obtain ⟨front, back, hsplit, -, hback⟩ := hwellFormed.rows.exists_split hparent
  obtain ⟨rest, rfl⟩ := List.head?_eq_some_iff.mp (hback.symm.trans hnext)
  obtain ⟨herase, hrows⟩ := hwellFormed.erase_erase hsplit
  have hlt : parent < (doc.detach child).size := by
    rw [size_detach]
    exact (hwellFormed.rows.mem_of_parent hparent).1
  rw [← size_detach child] at hchild
  have hback := hdetached.insertBefore hlt hchild herase
  rw [hrows] at hback
  exact hwellFormed.eq_of_putBack (lt_size_of_parent hparent) hback (size_insertBefore ..)
    (hdetached.label_insertBefore hlt hchild herase)

/-- A last child can be taken out and put back. -/
theorem detach_appendChild {parent child : NodeId} (hparent : doc.IsParent parent child)
    (hnext : (doc.node child).next = none) :
    (doc.detach child).appendChild parent child = doc := by
  have hchild := lt_size_of_parent hparent
  have hdetached := hwellFormed.rows.detach hchild
  obtain ⟨front, back, hsplit, -, hback⟩ := hwellFormed.rows.exists_split hparent
  obtain rfl := List.head?_eq_none_iff.mp (hback.symm.trans hnext)
  obtain ⟨herase, hrows⟩ := hwellFormed.erase_erase hsplit
  rw [List.append_nil] at herase
  have hlt : parent < (doc.detach child).size := by
    rw [size_detach]
    exact (hwellFormed.rows.mem_of_parent hparent).1
  rw [← size_detach child] at hchild
  have hback := hdetached.appendChild hlt hchild
  rw [herase, hrows] at hback
  exact hwellFormed.eq_of_putBack (lt_size_of_parent hparent) hback (size_appendChild ..)
    (hdetached.label_appendChild hlt hchild)

/-- Every legal move is an edit of lists: the node leaves the list that it stands in and comes
into the one it is moved to, at the end or right before another node. No other list and nothing
else about a node is different. A node that is taken out and put back where it was leaves the
document as it was. -/
theorem moves_edit_children :
    (∀ parent child, Edit.IsLegal doc (.appendChild parent child) →
      (doc.appendChild parent child).children parent =
          (doc.children parent).erase child ++ [child] ∧
        (∀ old ≠ parent,
          (doc.appendChild parent child).children old = (doc.children old).erase child) ∧
        doc.SameOutside (doc.appendChild parent child)
          (insert parent {old | doc.IsParent old child})) ∧
    (∀ parent before child, Edit.IsLegal doc (.insertBefore parent before child) →
      (∃ front back, (doc.children parent).erase child = front ++ before :: back ∧
        (doc.insertBefore parent before child).children parent =
          front ++ child :: before :: back) ∧
        (∀ old ≠ parent,
          (doc.insertBefore parent before child).children old = (doc.children old).erase child) ∧
        doc.SameOutside (doc.insertBefore parent before child)
          (insert parent {old | doc.IsParent old child})) ∧
    (∀ child, Edit.IsLegal doc (.detach child) →
      (∀ old, (doc.detach child).children old = (doc.children old).erase child) ∧
        doc.SameOutside (doc.detach child) {old | doc.IsParent old child}) ∧
    ∀ parent child, doc.IsParent parent child →
      (∀ next, (doc.node child).next = some next →
        (doc.detach child).insertBefore parent next child = doc) ∧
      ((doc.node child).next = none → (doc.detach child).appendChild parent child = doc) := by
  have hrows := hwellFormed.rows
  have hforest := hwellFormed.isForest
  refine ⟨?append, ?insert, fun child => hwellFormed.sameOutside_detach,
    fun parent child hparent => ⟨fun next => hwellFormed.detach_insertBefore hparent,
      hwellFormed.detach_appendChild hparent⟩⟩
  case append =>
    rintro parent child ⟨hparent, hchild, habove⟩
    exact hwellFormed.sameOutside_of_move (hrows.appendChild hparent hchild)
      (hforest.appendChild hparent hchild habove) (size_appendChild parent child)
      (hrows.label_appendChild hparent hchild)
  case insert =>
    rintro parent before child ⟨hchild, hbefore, hne, habove⟩
    obtain ⟨hparent, hmem⟩ := hrows.mem_of_parent hbefore
    obtain ⟨front, back, hsplit⟩ := List.append_of_mem ((List.mem_erase_of_ne hne).mpr hmem)
    obtain ⟨hrow, hrest⟩ := hwellFormed.sameOutside_of_move
      (hrows.insertBefore hparent hchild hsplit)
      (hforest.insertBefore hchild hbefore hne habove) (size_insertBefore parent before child)
      (hrows.label_insertBefore hparent hchild hsplit)
    exact ⟨⟨front, back, hsplit, hrow⟩, hrest⟩

end WellFormed

/-- A paragraph with a text, a code span that an extension has marked, and another text. -/
def markedSpan : Document :=
  ⟨#[{ element := .document, firstChild := some 1, lastChild := some 1 },
    { element := .paragraph, parent := some 0, firstChild := some 2, lastChild := some 6 },
    { element := .plainText (.owned "a"), parent := some 1, next := some 3 },
    { element := .custom "Mark" false, parent := some 1, previous := some 2, next := some 6,
      firstChild := some 4, lastChild := some 4 },
    { element := .codeSpan, parent := some 3, firstChild := some 5, lastChild := some 5 },
    { element := .text (.source ⟨1, 7⟩) ⟨true, false⟩, parent := some 4 },
    { element := .plainText (.owned "!"), parent := some 1, previous := some 3 }]⟩

/-- How the marked code span comes about. -/
def marking : List Edit :=
  [.addNode .paragraph, .addNode (.plainText (.owned "a")), .addNode (.custom "Mark" false),
    .addNode .codeSpan, .addNode (.text (.source ⟨1, 7⟩) ⟨true, false⟩),
    .addNode (.plainText (.owned "!")), .appendChild 0 1, .appendChild 1 2, .appendChild 1 3,
    .appendChild 3 4, .appendChild 4 5, .appendChild 1 6]

/-- The links of the document agree. -/
theorem wellFormed_markedSpan : markedSpan.WellFormed := by
  have hlegal : Edit.AllLegal .empty marking := by
    refine ⟨trivial, trivial, trivial, trivial, trivial, trivial,
      ⟨by decide, by decide, ?root⟩, ⟨by decide, by decide, ?text⟩, ⟨by decide, by decide, ?mark⟩,
      ⟨by decide, by decide, ?span⟩, ⟨by decide, by decide, ?code⟩, ⟨by decide, by decide, ?last⟩,
      trivial⟩
    case root => exact not_isAbove_of_top rfl (by decide)
    case text | mark | last =>
      exact not_isAbove_of_parent rfl (by decide) (not_isAbove_of_top rfl (by decide))
    case span =>
      exact not_isAbove_of_parent rfl (by decide)
        (not_isAbove_of_parent rfl (by decide) (not_isAbove_of_top rfl (by decide)))
    case code =>
      exact not_isAbove_of_parent rfl (by decide) (not_isAbove_of_parent rfl (by decide)
        (not_isAbove_of_parent rfl (by decide) (not_isAbove_of_top rfl (by decide))))
  have hmade : marking.foldl Edit.apply .empty = markedSpan := by decide +kernel
  exact hmade ▸ (Edit.isForest_foldl .empty hlegal).wellFormed

/-- A text goes into the emphasis, and what was taken out is put back. -/
theorem moves_edit_children_markedSpan :
    markedSpan.WellFormed ∧ Edit.IsLegal markedSpan (.appendChild 3 2) ∧
      (markedSpan.appendChild 3 2).children 3 = [4, 2] ∧
      (markedSpan.appendChild 3 2).children 1 = [3, 6] ∧
      (markedSpan.detach 3).insertBefore 1 6 3 = markedSpan ∧
      (markedSpan.detach 6).appendChild 1 6 = markedSpan := by
  have hlegal : Edit.IsLegal markedSpan (.appendChild 3 2) := by
    refine ⟨by decide, by decide, ?_⟩
    exact not_isAbove_of_parent rfl (by decide)
      (not_isAbove_of_parent rfl (by decide) (not_isAbove_of_top rfl (by decide)))
  obtain ⟨happend, -, -, hback⟩ := wellFormed_markedSpan.moves_edit_children
  obtain ⟨hinto, hothers, -⟩ := happend 3 2 hlegal
  exact ⟨wellFormed_markedSpan, hlegal, hinto, hothers 1 (by decide),
    (hback 1 3 rfl).1 6 rfl, (hback 1 6 rfl).2 rfl⟩

end MarkdownFormat.Document
