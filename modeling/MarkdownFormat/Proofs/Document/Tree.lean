/-
# Documents as trees

The links of a document stand for a tree. `Document.Holds` says that the tree below a
node is a given one, with all links in place: between a node and its children, and
between neighbours. A node cannot be its own descendant or follow itself in a row, so
the fuel that goes along with the links is never used up: `children` lists all children,
and a walk gets to the bottom of the tree.
-/

import Mathlib.Data.List.Perm.Subperm
import MarkdownFormat.Document.Walk

namespace MarkdownFormat

/-- What a node is, without its links. -/
structure Label where
  element : Element
  /-- Whether blank lines stand before the node. -/
  blankBefore : Bool := false
  /-- The content lines of a code block, an HTML block or a heading. -/
  lines : List Value := []
  /-- The source range of the node, as first and last offset. -/
  range : Option Segment := none
  deriving DecidableEq, Repr

/-- What a node is, without its links. -/
def Node.label (node : Node) : Label :=
  ⟨node.element, node.blankBefore, node.lines, node.range⟩

/-- The label has the element. -/
theorem Node.element_label (node : Node) : node.label.element = node.element := rfl

/-- A node with its descendants. -/
inductive Tree
  | node (label : Label) (children : List Tree)

namespace Tree

/-- What is shown of each tree and of each row of trees follows from showing it of the
row below a node, of the empty row and of a row that starts with a tree. -/
theorem rows_induction {ofTree : Tree → Prop} {ofRow : List Tree → Prop}
    (node : ∀ label children, ofRow children → ofTree (.node label children))
    (nil : ofRow [])
    (cons : ∀ tree rest, ofTree tree → ofRow rest → ofRow (tree :: rest)) :
    (∀ tree, ofTree tree) ∧ ∀ trees, ofRow trees :=
  ⟨fun tree => @Tree.rec ofTree ofRow node nil cons tree,
    fun trees => @Tree.rec_1 ofTree ofRow node nil cons trees⟩

/-- The label of the topmost node. -/
def label : Tree → Label
  | .node label _ => label

/-- The kind of the topmost node. -/
def kind (tree : Tree) : Kind :=
  tree.label.element.kind

mutual
/-- The number of nodes from the topmost to the deepest. -/
def height : Tree → Nat
  | .node _ children => heightOfRow children + 1

/-- The height of the highest tree of a row. -/
def heightOfRow : List Tree → Nat
  | [] => 0
  | tree :: rest => max tree.height (heightOfRow rest)
end

end Tree

namespace Document

variable (doc : Document)

/-- The nodes follow one another, from the first of them on, as the last children of a
node: they are linked to the node and to their neighbours. -/
def Row (parent : NodeId) (previous first : Option NodeId) : List NodeId → Prop
  | [] => first = none ∧ (doc.node parent).lastChild = previous
  | id :: rest =>
      first = some id ∧ (doc.node id).parent = some parent ∧
        (doc.node id).previous = previous ∧ Row parent (some id) (doc.node id).next rest

mutual
/-- The tree below the node is the given one. -/
def Holds : Tree → NodeId → Prop
  | .node label children, id =>
      id < doc.size ∧ (doc.node id).label = label ∧
        ∃ ids, doc.Row id none (doc.node id).firstChild ids ∧ HoldsEach children ids

/-- The trees below the nodes are the given ones. -/
def HoldsEach : List Tree → List NodeId → Prop
  | [], ids => ids = []
  | tree :: trees, ids => ∃ id rest, ids = id :: rest ∧ Holds tree id ∧ HoldsEach trees rest
end

variable {doc : Document}

/-- The links determine a row. -/
theorem Row.unique {parent otherParent : NodeId} {previous otherPrevious first : Option NodeId}
    {ids otherIds : List NodeId} (hrow : doc.Row parent previous first ids)
    (hother : doc.Row otherParent otherPrevious first otherIds) : ids = otherIds := by
  induction ids generalizing previous otherPrevious first otherIds with
  | nil =>
      cases otherIds with
      | nil => rfl
      | cons id rest => simp [Row, hrow.1] at hother
  | cons id rest ih =>
      cases otherIds with
      | nil => simp [Row, hrow.1] at hother
      | cons other others =>
          obtain ⟨rfl, -, -, hrest⟩ := hrow
          obtain ⟨hfirst, -, -, hothers⟩ := hother
          cases hfirst
          rw [ih hrest hothers]

/-- Each member of a row starts a row that is no longer. -/
theorem Row.exists_of_mem {parent : NodeId} {previous first : Option NodeId}
    {ids : List NodeId} (hrow : doc.Row parent previous first ids) {id : NodeId}
    (hid : id ∈ ids) :
    ∃ before rest, doc.Row parent before (some id) (id :: rest) ∧
      rest.length < ids.length := by
  induction ids generalizing previous first with
  | nil => cases hid
  | cons head tail ih =>
      obtain ⟨rfl, hparent, hprevious, hrest⟩ := hrow
      rcases List.mem_cons.mp hid with rfl | htail
      · exact ⟨previous, tail, ⟨rfl, hparent, hprevious, hrest⟩, Nat.lt_succ_self _⟩
      · obtain ⟨before, rest, hrow, hlength⟩ := ih hrest htail
        exact ⟨before, rest, hrow, Nat.lt_succ_of_lt hlength⟩

/-- No node stands twice in a row: what follows it would have to be of two lengths. -/
theorem Row.nodup {parent : NodeId} {previous first : Option NodeId} {ids : List NodeId}
    (hrow : doc.Row parent previous first ids) : ids.Nodup := by
  induction ids generalizing previous first with
  | nil => exact List.nodup_nil
  | cons id rest ih =>
      have hrest := hrow.2.2.2
      rw [hrow.1] at hrow
      apply List.nodup_cons.mpr
      refine ⟨?_, ih hrest⟩
      intro hid
      obtain ⟨before, later, hlater, hlength⟩ := hrest.exists_of_mem hid
      have hsame := hrow.unique hlater
      rw [List.cons.injEq] at hsame
      rw [hsame.2] at hlength
      exact Nat.lt_irrefl _ hlength

/-- With enough fuel, following the links gives the row. -/
theorem Row.siblingsFrom {parent : NodeId} {previous first : Option NodeId}
    {ids : List NodeId} (hrow : doc.Row parent previous first ids) {fuel : Nat}
    (hfuel : ids.length ≤ fuel) : doc.siblingsFrom fuel first = ids := by
  induction ids generalizing previous first fuel with
  | nil =>
      rw [hrow.1]
      cases fuel <;> rfl
  | cons id rest ih =>
      obtain ⟨rfl, -, -, hrest⟩ := hrow
      cases fuel with
      | zero => simp at hfuel
      | succ fuel =>
          rw [Document.siblingsFrom, ih hrest (Nat.le_of_succ_le_succ hfuel)]

/-- The first and the last of a node's children are linked to it. -/
theorem Row.first_eq {parent : NodeId} {previous first : Option NodeId} {ids : List NodeId}
    (hrow : doc.Row parent previous first ids) : first = ids.head? := by
  cases ids with
  | nil => exact hrow.1
  | cons id rest => exact hrow.1

/-- Distinct nodes of a document are not more than its nodes. -/
theorem length_le_size {ids : List NodeId} (hnodup : ids.Nodup)
    (hsize : ∀ id ∈ ids, id < doc.size) : ids.length ≤ doc.size := by
  have hsub : ids ⊆ List.range doc.size := fun id hid => List.mem_range.mpr (hsize id hid)
  simpa using (hnodup.subperm hsub).length_le

/-- The place of a tree is there. -/
theorem Holds.lt_size {tree : Tree} {id : NodeId} (hholds : doc.Holds tree id) :
    id < doc.size := by
  cases tree with
  | node label children => exact hholds.1

/-- It has the label of the tree. -/
theorem Holds.label_eq {tree : Tree} {id : NodeId} (hholds : doc.Holds tree id) :
    (doc.node id).label = tree.label := by
  cases tree with
  | node label children => exact hholds.2.1

/-- It has the element of the tree. -/
theorem Holds.element_eq {tree : Tree} {id : NodeId} (hholds : doc.Holds tree id) :
    (doc.node id).element = tree.label.element :=
  congrArg Label.element hholds.label_eq

/-- It has the kind of the tree. -/
theorem Holds.kind_eq {tree : Tree} {id : NodeId} (hholds : doc.Holds tree id) :
    doc.kind id = tree.kind :=
  congrArg Element.kind hholds.element_eq

/-- Each tree has a place. -/
theorem HoldsEach.length_eq {trees : List Tree} {ids : List NodeId}
    (hholds : doc.HoldsEach trees ids) : ids.length = trees.length := by
  induction trees generalizing ids with
  | nil =>
      cases hholds
      rfl
  | cons tree trees ih =>
      obtain ⟨id, rest, rfl, -, hrest⟩ := hholds
      rw [List.length_cons, ih hrest, List.length_cons]

/-- All of these places are there. -/
theorem HoldsEach.lt_size {trees : List Tree} {ids : List NodeId}
    (hholds : doc.HoldsEach trees ids) : ∀ id ∈ ids, id < doc.size := by
  induction trees generalizing ids with
  | nil =>
      cases hholds
      simp
  | cons tree trees ih =>
      obtain ⟨id, rest, rfl, hid, hrest⟩ := hholds
      exact List.forall_mem_cons.mpr ⟨hid.lt_size, ih hrest⟩

/-- The children of a node that holds a tree are those that hold its subtrees. -/
theorem Holds.children {label : Label} {children : List Tree} {id : NodeId}
    (hholds : doc.Holds (.node label children) id) :
    doc.Row id none (doc.node id).firstChild (doc.children id) ∧
      doc.HoldsEach children (doc.children id) := by
  obtain ⟨-, -, ids, hrow, hids⟩ := hholds
  have hchildren : doc.children id = ids :=
    hrow.siblingsFrom (length_le_size hrow.nodup hids.lt_size)
  rw [hchildren]
  exact ⟨hrow, hids⟩

/-- A place has children if the tree does. -/
theorem Holds.hasChildren {label : Label} {children : List Tree} {id : NodeId}
    (hholds : doc.Holds (.node label children) id) :
    doc.hasChildren id = !children.isEmpty := by
  obtain ⟨hrow, hids⟩ := hholds.children
  rw [Document.hasChildren, hrow.first_eq, Bool.eq_iff_iff, List.isSome_head?,
    ← List.length_pos_iff, hids.length_eq]
  cases children <;> simp

/-- A document holds one tree below a node. -/
theorem Holds.unique_rows : (∀ (tree : Tree) {other : Tree} {id : NodeId}, doc.Holds tree id →
      doc.Holds other id → tree = other) ∧
    ∀ (trees : List Tree) {others : List Tree} {ids : List NodeId}, doc.HoldsEach trees ids →
      doc.HoldsEach others ids → trees = others := by
  apply Tree.rows_induction
  · intro label children ih other id hholds hother
    cases other with
    | node otherLabel otherChildren =>
        have hlabel := hholds.label_eq.symm.trans hother.label_eq
        have hchildren := ih hholds.children.2 hother.children.2
        rw [hchildren]
        exact congrArg (Tree.node · otherChildren) hlabel
  · intro others ids hholds hother
    cases hholds
    cases others with
    | nil => rfl
    | cons other others =>
        obtain ⟨id, rest, hids, -⟩ := hother
        cases hids
  · intro tree rest ihTree ihRest others ids hholds hother
    obtain ⟨id, ids, rfl, hid, hids⟩ := hholds
    cases others with
    | nil => cases hother
    | cons other others =>
        obtain ⟨otherId, otherIds, hsame, hotherId, hotherIds⟩ := hother
        cases hsame
        rw [ihTree hid hotherId, ihRest hids hotherIds]

/-- From a node down to a deepest descendant there is a path of distinct nodes. -/
theorem Holds.exists_path_rows : (∀ (tree : Tree) {id : NodeId}, doc.Holds tree id →
      ∃ path : List NodeId, path.length = tree.height ∧ path.Nodup ∧
        ∀ other ∈ path, ∃ below : Tree, doc.Holds below other ∧ below.height ≤ tree.height) ∧
    ∀ (trees : List Tree) {ids : List NodeId}, doc.HoldsEach trees ids →
      ∃ path : List NodeId, path.length = Tree.heightOfRow trees ∧ path.Nodup ∧
        ∀ other ∈ path, ∃ below : Tree, doc.Holds below other ∧
          below.height ≤ Tree.heightOfRow trees := by
  apply Tree.rows_induction
  · intro label children ih id hholds
    obtain ⟨path, hlength, hnodup, hpath⟩ := ih hholds.children.2
    refine ⟨id :: path, by simp [Tree.height, hlength], ?_, ?_⟩
    · apply List.nodup_cons.mpr
      refine ⟨?_, hnodup⟩
      intro hid
      obtain ⟨below, hbelow, hheight⟩ := hpath id hid
      rw [← Holds.unique_rows.1 _ hholds hbelow, Tree.height] at hheight
      exact Nat.not_succ_le_self _ hheight
    · intro other hother
      rcases List.mem_cons.mp hother with rfl | hother
      · exact ⟨_, hholds, Nat.le_refl _⟩
      obtain ⟨below, hbelow, hheight⟩ := hpath other hother
      exact ⟨below, hbelow, Nat.le_succ_of_le hheight⟩
  · intro ids hholds
    exact ⟨[], rfl, List.nodup_nil, by simp⟩
  · intro tree rest ihTree ihRest ids hholds
    obtain ⟨id, ids, rfl, hid, hids⟩ := hholds
    -- The path goes down the higher side.
    rcases Nat.le_total (Tree.heightOfRow rest) tree.height with hle | hle
    · rw [Tree.heightOfRow, Nat.max_eq_left hle]
      exact ihTree hid
    · rw [Tree.heightOfRow, Nat.max_eq_right hle]
      exact ihRest hids

/-- No tree in a document is higher than the document is large. -/
theorem Holds.height_le_size {tree : Tree} {id : NodeId} (hholds : doc.Holds tree id) :
    tree.height ≤ doc.size := by
  obtain ⟨path, hlength, hnodup, hpath⟩ := Holds.exists_path_rows.1 tree hholds
  rw [← hlength]
  apply length_le_size hnodup
  intro other hother
  obtain ⟨below, hbelow, -⟩ := hpath other hother
  exact hbelow.lt_size

end Document

end MarkdownFormat
