/-
# Documents in walking order

Where a tree takes up the places from some node on, the links give back the places of its
nodes: each node's children, a way down to it, and a walk that meets the places in
ascending order.
-/

import Mathlib.Data.List.Range
import Mathlib.Logic.Relation
import MarkdownFormat.Proofs.Document.Shape

namespace MarkdownFormat

namespace Tree

/-- The places of the trees of a row that starts at a place. -/
def placesOfRow : Nat → List Tree → List Nat
  | _, [] => []
  | id, tree :: rest => id :: placesOfRow (id + tree.size) rest

/-- A row takes up the places from its first one on, as many as it has nodes. -/
theorem places_bounds {id k : Nat} {trees : List Tree} (hk : k ∈ placesOfRow id trees) :
    id ≤ k ∧ k < id + sizeOfRow trees := by
  induction trees generalizing id with
  | nil => cases hk
  | cons tree rest ih =>
      have hpositive := tree.size_pos
      rw [sizeOfRow]
      rcases List.mem_cons.mp hk with rfl | hrest
      · omega
      · have hbounds := ih hrest
        omega

/-- No tree is higher than it has nodes. -/
theorem height_le_size_rows : (∀ tree : Tree, tree.height ≤ tree.size) ∧
    ∀ trees : List Tree, heightOfRow trees ≤ sizeOfRow trees := by
  apply rows_induction
  · intro label children ih
    exact Nat.succ_le_succ ih
  · exact Nat.le_refl _
  · intro tree rest ihTree ihRest
    rw [heightOfRow, sizeOfRow]
    omega

end Tree

namespace Document

variable {doc : Document}

/-- The second node is a child of the first. -/
def IsChild (doc : Document) (upper lower : NodeId) : Prop :=
  lower ∈ doc.children upper

/-- A visitor that notes the nodes in the order in which they are entered. -/
def noteEntered : Visitor Empty (List NodeId) := fun id phase => do
  if phase = .enter then modifyThe (List NodeId) (· ++ [id])
  return .proceed

/-- Where there is no node, there is a document node by default. -/
theorem lt_size_of_kind {id : NodeId} (hkind : doc.kind id ≠ .document) : id < doc.size := by
  by_contra hid
  rw [kind, node_of_size_le (Nat.le_of_not_lt hid)] at hkind
  exact hkind rfl

/-- All nodes of a row have the same parent. -/
theorem Row.parent_eq {parent : NodeId} {previous first : Option NodeId} {ids : List NodeId}
    (hrow : doc.Row parent previous first ids) {id : NodeId} (hid : id ∈ ids) :
    (doc.node id).parent = some parent := by
  obtain ⟨_, _, hid, -⟩ := hrow.exists_of_mem hid
  exact hid.2.1

/-- What holds of any two neighbours in a row holds of a node and the next one. -/
theorem Row.next {parent : NodeId} {previous first : Option NodeId} {ids : List NodeId}
    (hrow : doc.Row parent previous first ids) {related : NodeId → NodeId → Prop}
    (hrelated : ids.IsChain related) {id next : NodeId} (hid : id ∈ ids)
    (hnext : (doc.node id).next = some next) : related id next := by
  induction ids generalizing previous first with
  | nil => cases hid
  | cons head rest ih =>
      rcases List.mem_cons.mp hid with rfl | hrest
      · have hfirst := hrow.2.2.2.first_eq
        rw [hnext] at hfirst
        obtain ⟨others, rfl⟩ := List.head?_eq_some_iff.mp hfirst.symm
        exact (List.isChain_cons_cons.mp hrelated).1
      · exact ih hrow.2.2.2 hrelated.tail hrest

/-- Trees side by side that end with the last child of their parent are a row. -/
theorem LiesRow.row {parent id : NodeId} {previous : Option NodeId} {trees : List Tree}
    (hlies : doc.LiesRow parent previous none trees id)
    (hlast : (doc.node parent).lastChild = Tree.lastOfRow previous id trees) :
    doc.Row parent previous (Tree.firstOfRow none id trees) (Tree.placesOfRow id trees) := by
  induction trees generalizing previous id with
  | nil => exact ⟨rfl, hlast⟩
  | cons tree rest ih =>
      obtain ⟨hparent, hprevious, hnext, -, hrest⟩ := hlies
      refine ⟨rfl, hparent, hprevious, ?_⟩
      rw [hnext]
      exact ih hrest hlast

/-- The node of a tree has the kind of the tree. -/
theorem Lies.kind_eq {tree : Tree} {id : NodeId} (hlies : doc.Lies tree id) :
    doc.kind id = tree.kind := by
  cases tree with
  | node label children => exact congrArg Element.kind hlies.1.1

/-- So do the nodes of a row. -/
theorem LiesRow.map_kind {parent id : Nat} {previous after : Option Nat} {trees : List Tree}
    (hlies : doc.LiesRow parent previous after trees id) :
    (Tree.placesOfRow id trees).map doc.kind = trees.map Tree.kind := by
  induction trees generalizing previous id with
  | nil => rfl
  | cons tree rest ih =>
      obtain ⟨-, -, -, htree, hrest⟩ := hlies
      rw [Tree.placesOfRow, List.map_cons, List.map_cons, ih hrest, htree.kind_eq]

section Lies

variable {label : Label} {children : List Tree} {id : Nat}
  (hlies : doc.Lies (.node label children) id)
  (hsize : id + (Tree.node label children).size ≤ doc.size)
include hlies

/-- The children of a node are the row of the trees below it. -/
theorem Lies.row :
    doc.Row id none (doc.node id).firstChild (Tree.placesOfRow (id + 1) children) := by
  obtain ⟨-, hfirst, hlast, hrow⟩ := hlies
  rw [hfirst]
  exact hrow.row hlast

include hsize

/-- They are listed in their order. -/
theorem Lies.children_eq : doc.children id = Tree.placesOfRow (id + 1) children := by
  apply hlies.row.siblingsFrom
  apply length_le_size hlies.row.nodup
  intro k hk
  have hbounds := Tree.places_bounds hk
  rw [Tree.size] at hsize
  exact Nat.lt_of_lt_of_le hbounds.2 (by omega)

/-- Their kinds are those of the trees below. -/
theorem Lies.childKinds_eq : doc.childKinds id = children.map Tree.kind := by
  rw [childKinds, hlies.children_eq hsize]
  exact hlies.2.2.2.map_kind

end Lies

/-- At every place of a shaped tree lies a shaped tree. -/
theorem exists_lies_rows :
    (∀ (tree : Tree) (id : Nat), doc.Lies tree id → tree.IsShaped →
      ∀ k, id ≤ k → k < id + tree.size →
        ∃ sub : Tree, doc.Lies sub k ∧ sub.IsShaped ∧ k + sub.size ≤ id + tree.size) ∧
    ∀ (trees : List Tree) (id parent : Nat) (previous after : Option Nat),
      doc.LiesRow parent previous after trees id → Tree.AreShaped trees →
      ∀ k, id ≤ k → k < id + Tree.sizeOfRow trees →
        ∃ sub : Tree, doc.Lies sub k ∧ sub.IsShaped ∧ k + sub.size ≤ id + Tree.sizeOfRow trees := by
  apply Tree.rows_induction
  · intro label children ih id hlies hshaped k hlow hhigh
    rcases Nat.eq_or_lt_of_le hlow with rfl | hlow
    · exact ⟨_, hlies, hshaped, Nat.le_refl _⟩
    · rw [Tree.size] at hhigh ⊢
      obtain ⟨sub, hsub, hsubShaped, hend⟩ :=
        ih _ _ _ _ hlies.2.2.2 hshaped.2.2 k hlow (by omega)
      exact ⟨sub, hsub, hsubShaped, by omega⟩
  · intro id parent previous after _ _ k hlow hhigh
    rw [Tree.sizeOfRow] at hhigh
    omega
  · intro tree rest ihTree ihRest id parent previous after hlies hshaped k hlow hhigh
    rw [Tree.sizeOfRow] at hhigh ⊢
    by_cases hk : k < id + tree.size
    · obtain ⟨sub, hsub, hsubShaped, hend⟩ := ihTree id hlies.2.2.2.1 hshaped.1 k hlow hk
      exact ⟨sub, hsub, hsubShaped, by omega⟩
    · obtain ⟨sub, hsub, hsubShaped, hend⟩ :=
        ihRest _ _ _ _ hlies.2.2.2.2 hshaped.2 k (by omega) (by omega)
      exact ⟨sub, hsub, hsubShaped, by omega⟩

/-- Every place below a node is that of a child of an earlier node. -/
theorem exists_parent_rows :
    (∀ (tree : Tree) (id : Nat), doc.Lies tree id → id + tree.size ≤ doc.size →
      ∀ k, id < k → k < id + tree.size → ∃ upper, id ≤ upper ∧ upper < k ∧ doc.IsChild upper k) ∧
    ∀ (trees : List Tree) (id parent : Nat) (previous after : Option Nat),
      doc.LiesRow parent previous after trees id → id + Tree.sizeOfRow trees ≤ doc.size →
      ∀ k, id ≤ k → k < id + Tree.sizeOfRow trees → k ∈ Tree.placesOfRow id trees ∨
        ∃ upper, id ≤ upper ∧ upper < k ∧ doc.IsChild upper k := by
  apply Tree.rows_induction
  · intro label children ih id hlies hsize k hlow hhigh
    have hchildren := hlies.children_eq hsize
    rw [Tree.size] at hhigh hsize
    rcases ih _ _ _ _ hlies.2.2.2 (by omega) k hlow (by omega) with hk | ⟨upper, hupper, hk⟩
    · refine ⟨id, Nat.le_refl _, hlow, ?_⟩
      rwa [IsChild, hchildren]
    · exact ⟨upper, by omega, hk⟩
  · intro id parent previous after _ _ k hlow hhigh
    rw [Tree.sizeOfRow] at hhigh
    omega
  · intro tree rest ihTree ihRest id parent previous after hlies hsize k hlow hhigh
    rw [Tree.sizeOfRow] at hhigh hsize
    rcases Nat.eq_or_lt_of_le hlow with rfl | hbelow
    · exact .inl List.mem_cons_self
    by_cases hk : k < id + tree.size
    · exact .inr (ihTree id hlies.2.2.2.1 (by omega) k hbelow hk)
    · rcases ihRest _ _ _ _ hlies.2.2.2.2 (by omega) k (by omega) (by omega) with
        hk | ⟨upper, hupper, hk⟩
      · exact .inl (List.mem_cons_of_mem _ hk)
      · exact .inr ⟨upper, by omega, hk⟩

/-- A walk through a tree meets its places one after the other. -/
theorem walkTo_noteEntered_rows :
    (∀ (tree : Tree) (id : Nat), doc.Lies tree id → id + tree.size ≤ doc.size →
      ∀ depth, tree.height ≤ depth → ∀ noted,
        doc.walkTo noteEntered depth id noted =
          .ok .proceed (noted ++ List.range' id tree.size)) ∧
    ∀ (trees : List Tree) (id parent : Nat) (previous after : Option Nat),
      doc.LiesRow parent previous after trees id → id + Tree.sizeOfRow trees ≤ doc.size →
      ∀ depth, Tree.heightOfRow trees ≤ depth → ∀ noted,
        walkEach (doc.walkTo noteEntered depth) (Tree.placesOfRow id trees) noted =
          .ok .proceed (noted ++ List.range' id (Tree.sizeOfRow trees)) := by
  apply Tree.rows_induction
  · intro label children ih id hlies hsize depth hdepth noted
    have hchildren := hlies.children_eq hsize
    rw [Tree.size] at hsize
    cases depth with
    | zero => cases hdepth
    | succ depth =>
        have hbelow := ih _ _ _ _ hlies.2.2.2 (by omega) depth (Nat.le_of_succ_le_succ hdepth)
          (noted ++ [id])
        show EStateM.bind (walkEach (doc.walkTo noteEntered depth) (doc.children id)) _
          (noted ++ [id]) = _
        rw [EStateM.bind, hchildren, hbelow, Tree.size, List.range'_succ, List.append_assoc]
        rfl
  · intro id parent previous after _ _ depth _ noted
    rw [Tree.sizeOfRow, List.range'_zero, List.append_nil]
    rfl
  · intro tree rest ihTree ihRest id parent previous after hlies hsize depth hdepth noted
    obtain ⟨-, -, -, htree, hrest⟩ := hlies
    rw [Tree.sizeOfRow] at hsize ⊢
    rw [Tree.heightOfRow] at hdepth
    have hfirst := ihTree id htree (by omega) depth (by omega) noted
    have hothers := ihRest _ _ _ _ hrest (by omega) depth (by omega)
      (noted ++ List.range' id tree.size)
    show EStateM.bind (doc.walkTo noteEntered depth id) _ noted = _
    rw [EStateM.bind, hfirst]
    show walkEach _ _ _ = _
    rw [hothers, List.append_assoc, List.range'_append_1]

/-- On the path from a growing node to the root each node is the last child of the next. -/
theorem Surrounds.isChain_lastChild {outer : List Shelf} {path : List Nat} {id : Nat}
    (hsurrounds : doc.Surrounds outer path id) :
    (id :: path).IsChain fun inner upper => (doc.node upper).lastChild = some inner := by
  induction outer generalizing path id with
  | nil =>
      obtain ⟨rfl, -⟩ := hsurrounds
      exact .singleton _
  | cons shelf outer ih =>
      obtain ⟨parent, rest, rfl, hrest, -, -, -, hlast, -⟩ := hsurrounds
      exact .cons_cons hlast (ih hrest)

section Whole

variable {label : Label} {children : List Tree}
  (hbuilt : doc.Built ⟨label, children⟩ [] root [])
include hbuilt

/-- A walk enters every node, in the order of the places. -/
theorem Built.walk_noteEntered :
    doc.walk noteEntered root [] = .ok .proceed (List.range doc.size) := by
  have hsize := hbuilt.size_eq_tree
  have hheight := Tree.height_le_size_rows.1 (.node label children)
  rw [← hsize] at hheight
  rw [walk, walkTo_noteEntered_rows.1 _ _ hbuilt.lies (by simp [root, hsize]) _ hheight,
    List.range_eq_range', hsize]
  rfl

/-- Every node but the root is a child of an earlier one. -/
theorem Built.exists_isChild {id : Nat} (hpositive : 0 < id) (hid : id < doc.size) :
    ∃ upper, upper < id ∧ doc.IsChild upper id := by
  have hsize := hbuilt.size_eq_tree
  obtain ⟨upper, -, hupper, hchild⟩ := exists_parent_rows.1 _ _ hbuilt.lies (by simp [root, hsize])
    id hpositive (by simpa [root, ← hsize] using hid)
  exact ⟨upper, hupper, hchild⟩

/-- From the root there is a way down to every node. -/
theorem Built.reachable {id : Nat} (hid : id < doc.size) :
    Relation.ReflTransGen doc.IsChild root id := by
  induction id using Nat.strong_induction_on with
  | h id ih =>
      rcases Nat.eq_zero_or_pos id with rfl | hpositive
      · exact .refl
      · obtain ⟨upper, hupper, hchild⟩ := hbuilt.exists_isChild hpositive hid
        exact (ih upper hupper (by omega)).tail hchild

section Shaped

variable (hshaped : (Tree.node label children).IsShaped)
include hshaped

/-- At every place lies a tree of the right shape. -/
theorem Built.exists_lies {id : Nat} (hid : id < doc.size) :
    ∃ label children, doc.Lies (.node label children) id ∧
      (Tree.node label children).IsShaped ∧ id + (Tree.node label children).size ≤ doc.size := by
  have hsize := hbuilt.size_eq_tree
  obtain ⟨⟨label, children⟩, hlies, hsub, hend⟩ := exists_lies_rows.1 _ _ hbuilt.lies hshaped id
    (Nat.zero_le id) (by simpa [root, ← hsize] using hid)
  exact ⟨label, children, hlies, hsub, by simpa [root, ← hsize] using hend⟩

/-- The children of each node may stand below it. -/
theorem Built.admits {id : Nat} (hid : id < doc.size) :
    (doc.kind id).Admits (doc.childKinds id) := by
  obtain ⟨label, children, hlies, hsub, hend⟩ := hbuilt.exists_lies hshaped hid
  rw [hlies.childKinds_eq hend, hlies.kind_eq]
  exact hsub.1

/-- The children of every node are a row. -/
theorem Built.row {id : Nat} (hid : id < doc.size) :
    doc.Row id none (doc.node id).firstChild (doc.children id) := by
  obtain ⟨label, children, hlies, -, hend⟩ := hbuilt.exists_lies hshaped hid
  rw [hlies.children_eq hend]
  exact hlies.row

/-- An item has only blocks for children. -/
theorem Built.listItem_children {id : Nat} (hitem : doc.kind id = .listItem) :
    ∀ child ∈ doc.children id, (doc.kind child).isBlock := by
  have hid : id < doc.size := lt_size_of_kind (by simp [hitem])
  exact List.forall_mem_map.mp ((hbuilt.admits hshaped hid).blocks hitem)

/-- A text block has children, none of them a block. -/
theorem Built.textBlock_children {id : Nat} (htextBlock : doc.kind id = .textBlock) :
    doc.children id ≠ [] ∧ ∀ child ∈ doc.children id, (doc.kind child).isBlock = false := by
  have hid : id < doc.size := lt_size_of_kind (by simp [htextBlock])
  have hadmits := hbuilt.admits hshaped hid
  refine ⟨?_, List.forall_mem_map.mp (hadmits.inlines htextBlock)⟩
  obtain ⟨label, children, hlies, hsub, hend⟩ := hbuilt.exists_lies hshaped hid
  have hchildren := hsub.2.1 (hlies.kind_eq.symm.trans htextBlock)
  intro hnone
  have hkinds := hlies.childKinds_eq hend
  rw [childKinds, hnone] at hkinds
  exact hchildren (List.map_eq_nil_iff.mp hkinds.symm)

variable (hdocument : label.element.kind = .document)
include hdocument

/-- A text block is a child of an item. -/
theorem Built.textBlock_parent {id : Nat} (htextBlock : doc.kind id = .textBlock) :
    ∃ item, (doc.node id).parent = some item ∧ doc.IsChild item id ∧
      doc.kind item = .listItem := by
  have hid : id < doc.size := lt_size_of_kind (by simp [htextBlock])
  have hpositive : 0 < id := by
    rcases Nat.eq_zero_or_pos id with rfl | hpositive
    · have hroot : doc.kind 0 = .document := hbuilt.lies.kind_eq.trans hdocument
      rw [hroot] at htextBlock
      cases htextBlock
    · exact hpositive
  obtain ⟨upper, hupper, hchild⟩ := hbuilt.exists_isChild hpositive hid
  have hsize : upper < doc.size := Nat.lt_trans hupper hid
  refine ⟨upper, (hbuilt.row hshaped hsize).parent_eq hchild, hchild, ?_⟩
  exact (hbuilt.admits hshaped hsize).textBlocks
    (htextBlock ▸ List.mem_map_of_mem hchild)

/-- No text block follows another. -/
theorem Built.textBlock_next {id next : Nat} (htextBlock : doc.kind id = .textBlock)
    (hnext : (doc.node id).next = some next) : doc.kind next ≠ .textBlock := by
  obtain ⟨item, -, hchild, hitem⟩ := hbuilt.textBlock_parent hshaped hdocument htextBlock
  have hsize : item < doc.size := lt_size_of_kind (by simp [hitem])
  have hapart := (List.isChain_map doc.kind).mp (hbuilt.admits hshaped hsize).apart
  exact (hbuilt.row hshaped hsize).next hapart hchild hnext htextBlock

end Shaped

end Whole

end Document

end MarkdownFormat
