/-
# What edits do to each node

Every edit is made of changes of single nodes, so what it does can be said node by node.
Appending a node that has just been added concerns the node itself, its parent and the
child that was the last before.
-/

import MarkdownFormat.Document.Edit

namespace MarkdownFormat.Document

variable {doc : Document}

/-- Past the end of a document nothing is linked. -/
theorem node_of_size_le {id : NodeId} (hid : doc.size ≤ id) :
    doc.node id = { element := .document } := by
  rw [node, Array.getD_eq_getD_getElem?, Array.getElem?_eq_none hid]
  rfl

@[simp]
theorem size_modify (id : Nat) (change : Node → Node) :
    (doc.modify id change).size = doc.size := by
  simp [size, modify]

/-- A change concerns one node, if it is there. -/
theorem node_modify (id : Nat) (change : Node → Node) (k : Nat) :
    (doc.modify id change).node k =
      if k = id ∧ k < doc.size then change (doc.node k) else doc.node k := by
  simp only [node, modify, size, Array.getD_eq_getD_getElem?, Array.getElem?_modify]
  by_cases hid : id = k
  · subst hid
    by_cases hk : id < doc.nodes.size
    · simp [hk]
    · simp [hk]
  · simp [hid, Ne.symm hid]

/-- A changed node is as the change makes it. -/
theorem node_modify_self {id : Nat} (hid : id < doc.size) (change : Node → Node) :
    (doc.modify id change).node id = change (doc.node id) := by
  rw [node_modify, if_pos ⟨rfl, hid⟩]

/-- No other node changes. -/
theorem node_modify_of_ne {id k : Nat} (hk : k ≠ id) (change : Node → Node) :
    (doc.modify id change).node k = doc.node k := by
  rw [node_modify, if_neg (fun h => hk h.1)]

@[simp]
theorem size_addNode (element : Element) : (doc.addNode element).size = doc.size + 1 := by
  simp [size, addNode]

/-- A new node has an element and nothing else. -/
theorem node_addNode (element : Element) (k : Nat) :
    (doc.addNode element).node k = if k = doc.size then { element } else doc.node k := by
  simp only [node, addNode, size, Array.getD_eq_getD_getElem?, Array.getElem?_push]
  split <;> simp_all

/-- Taking out a node that is not linked to anything changes nothing. -/
theorem node_detach_of_unlinked {id : Nat} (hparent : (doc.node id).parent = none)
    (hprevious : (doc.node id).previous = none) (hnext : (doc.node id).next = none)
    (k : Nat) : (doc.detach id).node k = doc.node k := by
  rw [detach, hparent, hprevious, hnext]
  show ((doc.modify id _).node k) = _
  rw [node_modify]
  split
  · next hk =>
      rw [hk.1]
      cases hnode : doc.node id
      simp_all
  · rfl

@[simp]
theorem size_join (parent previous next : Option Nat) :
    (doc.join parent previous next).size = doc.size := by
  unfold join modify?
  cases previous <;> cases next <;> cases parent <;> simp

@[simp]
theorem size_detach (id : Nat) : (doc.detach id).size = doc.size := by
  simp [detach]

@[simp]
theorem size_appendChild (parent child : Nat) :
    (doc.appendChild parent child).size = doc.size := by
  simp only [appendChild]
  split <;> simp

@[simp]
theorem size_insertBefore (parent before child : Nat) :
    (doc.insertBefore parent before child).size = doc.size := by
  simp only [insertBefore]
  split <;> simp

/-- Says what comes after a node, or which child of the parent comes first. -/
def setNext (doc : Document) (parent previous next : Option NodeId) : Document :=
  match previous with
  | some previous => doc.modify previous ({ · with next })
  | none => doc.modify? parent ({ · with firstChild := next })

/-- Says what comes before a node, or which child of the parent comes last. -/
def setPrevious (doc : Document) (parent previous next : Option NodeId) : Document :=
  match next with
  | some next => doc.modify next ({ · with previous })
  | none => doc.modify? parent ({ · with lastChild := previous })

@[simp]
theorem size_setNext (parent previous next : Option NodeId) :
    (doc.setNext parent previous next).size = doc.size := by
  cases previous <;> cases parent <;> simp [setNext, modify?]

@[simp]
theorem size_setPrevious (parent previous next : Option NodeId) :
    (doc.setPrevious parent previous next).size = doc.size := by
  cases next <;> cases parent <;> simp [setPrevious, modify?]

/-- A change of a node that need not be there. -/
theorem node_modify? {target : Option NodeId} (htarget : ∀ k, target = some k → k < doc.size)
    (change : Node → Node) (k : NodeId) :
    (doc.modify? target change).node k =
      if target = some k then change (doc.node k) else doc.node k := by
  cases target with
  | none => simp [modify?]
  | some other =>
      rw [modify?, node_modify]
      by_cases hk : k = other
      · simp [hk, htarget other rfl]
      · simp [hk, Ne.symm hk]

/-- The node before a place is linked with the one behind it; without one before, the parent is. -/
theorem node_setNext {parent previous : Option NodeId} (next : Option NodeId)
    (hparent : ∀ k, parent = some k → k < doc.size)
    (hprevious : ∀ k, previous = some k → k < doc.size) (k : NodeId) :
    (doc.setNext parent previous next).node k =
      { doc.node k with
        next := if previous = some k then next else (doc.node k).next
        firstChild := if previous = none ∧ parent = some k then next
          else (doc.node k).firstChild } := by
  cases previous with
  | some other =>
      show (doc.modify? (some other) _).node k = _
      rw [node_modify? hprevious]
      split <;> simp [*]
  | none =>
      rw [setNext, node_modify? hparent]
      split <;> simp [*]

/-- The node behind a place is linked with the one before it; without one behind, the parent is. -/
theorem node_setPrevious {parent next : Option NodeId} (previous : Option NodeId)
    (hparent : ∀ k, parent = some k → k < doc.size)
    (hnext : ∀ k, next = some k → k < doc.size) (k : NodeId) :
    (doc.setPrevious parent previous next).node k =
      { doc.node k with
        previous := if next = some k then previous else (doc.node k).previous
        lastChild := if next = none ∧ parent = some k then previous
          else (doc.node k).lastChild } := by
  cases next with
  | some other =>
      show (doc.modify? (some other) _).node k = _
      rw [node_modify? hnext]
      split <;> simp [*]
  | none =>
      rw [setPrevious, node_modify? hparent]
      split <;> simp [*]

/-- Detaching joins what was on both sides, and clears the links of the node. -/
theorem detach_eq (id : NodeId) :
    doc.detach id =
      ((doc.setNext (doc.node id).parent (doc.node id).previous (doc.node id).next).setPrevious
        (doc.node id).parent (doc.node id).previous (doc.node id).next).modify id
          ({ · with parent := none, previous := none, next := none }) := rfl

/-- The neighbours of a node that is taken out become neighbours of each other. -/
theorem node_detach {id : NodeId} (hid : id < doc.size)
    (hparent : ∀ k, (doc.node id).parent = some k → k < doc.size)
    (hprevious : ∀ k, (doc.node id).previous = some k → k < doc.size)
    (hnext : ∀ k, (doc.node id).next = some k → k < doc.size) (k : NodeId) :
    (doc.detach id).node k =
      { doc.node k with
        parent := if k = id then none else (doc.node k).parent
        previous := if k = id then none
          else if (doc.node id).next = some k then (doc.node id).previous
          else (doc.node k).previous
        next := if k = id then none
          else if (doc.node id).previous = some k then (doc.node id).next
          else (doc.node k).next
        firstChild :=
          if (doc.node id).previous = none ∧ (doc.node id).parent = some k then
            (doc.node id).next
          else (doc.node k).firstChild
        lastChild :=
          if (doc.node id).next = none ∧ (doc.node id).parent = some k then
            (doc.node id).previous
          else (doc.node k).lastChild } := by
  rw [detach_eq, node_modify, node_setPrevious _ (by simpa using hparent) (by simpa using hnext),
    node_setNext _ hparent hprevious]
  by_cases hk : k = id
  · simp [hk, hid]
  · simp [hk]

/-- Links a node in below another, between two neighbours. -/
def link (doc : Document) (parent child : NodeId) (previous next : Option NodeId) : Document :=
  ((doc.modify child ({ · with parent := some parent, previous, next })).setNext (some parent)
    previous (some child)).setPrevious (some parent) (some child) next

@[simp]
theorem size_link (parent child : NodeId) (previous next : Option NodeId) :
    (doc.link parent child previous next).size = doc.size := by
  simp [link]

/-- Linking a child in concerns the child, its parent and what is on both sides. -/
theorem node_link {parent child : NodeId} {previous next : Option NodeId}
    (hparent : parent < doc.size) (hchild : child < doc.size)
    (hprevious : ∀ k, previous = some k → k < doc.size)
    (hnext : ∀ k, next = some k → k < doc.size) (k : NodeId) :
    (doc.link parent child previous next).node k =
      { doc.node k with
        parent := if k = child then some parent else (doc.node k).parent
        previous := if next = some k then some child
          else if k = child then previous else (doc.node k).previous
        next := if previous = some k then some child
          else if k = child then next else (doc.node k).next
        firstChild := if previous = none ∧ k = parent then some child
          else (doc.node k).firstChild
        lastChild := if next = none ∧ k = parent then some child
          else (doc.node k).lastChild } := by
  rw [link, node_setPrevious _ (by simpa using hparent) (by simpa using hnext),
    node_setNext _ (by simpa using hparent) (by simpa using hprevious), node_modify]
  by_cases hk : k = child
  · simp [hk, hchild, eq_comm]
  · simp [hk, eq_comm]

/-- Appending detaches the child and links it in behind the last. -/
theorem appendChild_eq (parent child : NodeId) :
    doc.appendChild parent child =
      (((doc.detach child).modify child ({ · with
        parent := some parent
        previous := ((doc.detach child).node parent).lastChild })).setNext (some parent)
        ((doc.detach child).node parent).lastChild (some child)).setPrevious (some parent)
        (some child) none := rfl

section Moves

variable {parent child : NodeId} (hparent : parent < doc.size) (hchild : child < doc.size)
include hparent hchild

/-- A child that is appended is linked in behind the last child. -/
theorem node_appendChild (hnext : ((doc.detach child).node child).next = none)
    (hlast : ∀ k, ((doc.detach child).node parent).lastChild = some k → k < doc.size)
    (k : NodeId) :
    (doc.appendChild parent child).node k =
      ((doc.detach child).link parent child ((doc.detach child).node parent).lastChild
        none).node k := by
  rw [appendChild_eq, node_link (by simpa using hparent) (by simpa using hchild) (by simpa using hlast)
    (by simp), node_setPrevious _ (by simpa using hparent) (by simp),
    node_setNext _ (by simpa using hparent) (by simpa using hlast), node_modify]
  by_cases hk : k = child
  · simp [hk, hchild, hnext, eq_comm]
  · simp [hk, eq_comm]

/-- A child that is inserted is linked in before the given one. -/
theorem node_insertBefore {before : NodeId} (hbefore : before < doc.size)
    (hprevious : ∀ k, ((doc.detach child).node before).previous = some k → k < doc.size)
    (k : NodeId) :
    (doc.insertBefore parent before child).node k =
      ((doc.detach child).link parent child ((doc.detach child).node before).previous
        (some before)).node k := by
  have hinsert : doc.insertBefore parent before child =
      (((doc.detach child).modify child ({ · with
        parent := some parent
        previous := ((doc.detach child).node before).previous
        next := some before })).setPrevious (some parent) (some child) (some before)).setNext
        (some parent) ((doc.detach child).node before).previous (some child) := rfl
  rw [hinsert, node_link (by simpa using hparent) (by simpa using hchild)
    (by simpa using hprevious) (by simpa using hbefore),
    node_setNext _ (by simpa using hparent) (by simpa using hprevious),
    node_setPrevious _ (by simpa using hparent) (by simpa using hbefore), node_modify]
  by_cases hk : k = child
  · simp [hk, hchild, eq_comm]
  · simp [hk, eq_comm]

end Moves

/-- Adds a node with its range and its blank lines behind the last child of another. -/
def appendNew (doc : Document) (parent : Nat) (element : Element) (range : Segment)
    (blankBefore : Bool) : Document :=
  (((doc.addNode element).setRange doc.size range).setBlankBefore doc.size
    blankBefore).appendChild parent doc.size

/-- The node that is added, before it is linked. -/
theorem node_added (element : Element) (range : Segment) (blankBefore : Bool) (k : Nat) :
    (((doc.addNode element).setRange doc.size range).setBlankBefore doc.size
        blankBefore).node k =
      if k = doc.size then { element, range := some range, blankBefore } else doc.node k := by
  rw [setBlankBefore, setRange, node_modify, node_modify, node_addNode]
  by_cases hk : k = doc.size
  · simp [hk]
  · simp [hk]

@[simp]
theorem size_appendNew (parent : Nat) (element : Element) (range : Segment)
    (blankBefore : Bool) :
    (doc.appendNew parent element range blankBefore).size = doc.size + 1 := by
  simp [appendNew, setBlankBefore, setRange]

/-- The node that is added, its parent and its neighbour are linked; nothing else
changes. -/
theorem node_appendNew {parent : Nat} (hparent : parent < doc.size)
    (hlast : ∀ last, (doc.node parent).lastChild = some last →
      last < doc.size ∧ last ≠ parent)
    (element : Element) (range : Segment) (blankBefore : Bool) (k : Nat) :
    (doc.appendNew parent element range blankBefore).node k =
      if k = doc.size then
        { element, blankBefore, range := some range, parent := some parent,
          previous := (doc.node parent).lastChild }
      else if k = parent then
        { doc.node parent with
          firstChild := if (doc.node parent).lastChild.isNone then some doc.size
            else (doc.node parent).firstChild
          lastChild := some doc.size }
      else if (doc.node parent).lastChild = some k then
        { doc.node k with next := some doc.size }
      else doc.node k := by
  have hadded := @node_added doc element range blankBefore
  rw [appendNew]
  generalize hnew : ((doc.addNode element).setRange doc.size range).setBlankBefore doc.size
    blankBefore = new at hadded ⊢
  have hsize : new.size = doc.size + 1 := by
    rw [← hnew, setBlankBefore, setRange, size_modify, size_modify, size_addNode]
  have hne : parent ≠ doc.size := Nat.ne_of_lt hparent
  have hself := (hadded doc.size).trans (if_pos rfl)
  have hdetach := node_detach_of_unlinked (congrArg Node.parent hself)
    (congrArg Node.previous hself) (congrArg Node.next hself)
  have hbelow : (new.detach doc.size).node parent = doc.node parent := by
    rw [hdetach, hadded, if_neg hne]
  have hnext : ((new.detach doc.size).node doc.size).next = none := by
    rw [hdetach, hself]
  have hend : ∀ last, (doc.node parent).lastChild = some last → last < new.size := by
    intro last hfound
    rw [hsize]
    exact Nat.lt_succ_of_lt (hlast last hfound).1
  have hparent' : parent < new.size := by omega
  have hchild : doc.size < new.size := by omega
  rw [node_appendChild hparent' hchild hnext (by rwa [hbelow]), hbelow,
    node_link (by rwa [size_detach]) (by rwa [size_detach]) (by rwa [size_detach]) (by simp),
    hdetach, hadded]
  by_cases hk : k = doc.size
  · have hother : (doc.node parent).lastChild ≠ some doc.size := fun hfound =>
      Nat.lt_irrefl _ (hlast _ hfound).1
    simp [hk, hne.symm, hother]
  · by_cases hkparent : k = parent
    · have hother : (doc.node parent).lastChild ≠ some parent := fun hfound =>
        (hlast _ hfound).2 rfl
      simp [hkparent, hne, hother]
    · by_cases hklast : (doc.node parent).lastChild = some k
      · simp [hk, hkparent, hklast]
      · simp [hk, hkparent, hklast]

/-- Two documents have the same elements and lines at the same places. Links, ranges and marks
may differ. -/
def SameContent (doc changed : Document) : Prop :=
  ∀ k, (changed.node k).element = (doc.node k).element ∧
    (changed.node k).lines = (doc.node k).lines

section Content

variable {doc changed later : Document}

/-- Two edits that keep all content keep it together. -/
theorem SameContent.trans (hfirst : doc.SameContent changed) (hsecond : changed.SameContent later) :
    doc.SameContent later :=
  fun k => ⟨(hsecond k).1.trans (hfirst k).1, (hsecond k).2.trans (hfirst k).2⟩

/-- A change of links alone keeps the content. -/
theorem sameContent_modify (id : NodeId) {change : Node → Node}
    (hchange : ∀ node, (change node).element = node.element ∧ (change node).lines = node.lines) :
    doc.SameContent (doc.modify id change) := by
  intro k
  rw [node_modify]
  split
  · exact hchange _
  · exact ⟨rfl, rfl⟩

/-- So does one of a node that need not be there. -/
theorem sameContent_modify? (id : Option NodeId) {change : Node → Node}
    (hchange : ∀ node, (change node).element = node.element ∧ (change node).lines = node.lines) :
    doc.SameContent (doc.modify? id change) := by
  cases id with
  | none => exact fun _ => ⟨rfl, rfl⟩
  | some id => exact sameContent_modify id hchange

/-- A link behind a place is no content. -/
theorem sameContent_setNext (parent previous next : Option NodeId) :
    doc.SameContent (doc.setNext parent previous next) := by
  cases previous with
  | some previous => exact sameContent_modify previous fun _ => ⟨rfl, rfl⟩
  | none => exact sameContent_modify? parent fun _ => ⟨rfl, rfl⟩

/-- Nor is one before a place. -/
theorem sameContent_setPrevious (parent previous next : Option NodeId) :
    doc.SameContent (doc.setPrevious parent previous next) := by
  cases next with
  | some next => exact sameContent_modify next fun _ => ⟨rfl, rfl⟩
  | none => exact sameContent_modify? parent fun _ => ⟨rfl, rfl⟩

/-- So detaching keeps the content. -/
theorem sameContent_detach (id : NodeId) : doc.SameContent (doc.detach id) := by
  rw [detach_eq]
  refine SameContent.trans ?_ (sameContent_modify id fun _ => ⟨rfl, rfl⟩)
  exact (sameContent_setNext _ _ _).trans (sameContent_setPrevious _ _ _)

/-- Moving a node leaves all nodes what they are. -/
theorem sameContent_appendChild (parent child : NodeId) :
    doc.SameContent (doc.appendChild parent child) := by
  rw [appendChild_eq]
  refine SameContent.trans ?_ (sameContent_setPrevious _ _ _)
  refine SameContent.trans ?_ (sameContent_setNext _ _ _)
  exact (sameContent_detach child).trans (sameContent_modify child fun _ => ⟨rfl, rfl⟩)

/-- Adding a node gives it its element and no lines, wherever it is linked. -/
theorem content_appendNew (parent : NodeId) (element : Element) (range : Segment)
    (blankBefore : Bool) (k : NodeId) :
    let added := doc.appendNew parent element range blankBefore
    (added.node k).element = (if k = doc.size then element else (doc.node k).element) ∧
      (added.node k).lines = if k = doc.size then [] else (doc.node k).lines := by
  intro added
  have hsame : (added.node k).element = _ ∧ (added.node k).lines = _ :=
    sameContent_appendChild parent doc.size k
  rw [node_added] at hsame
  rw [hsame.1, hsame.2]
  split <;> exact ⟨rfl, rfl⟩

end Content

end MarkdownFormat.Document
