/-
# Documents laid out in order

A document that only grows at its end has its nodes in the order in which a walk enters
them: the tree below a node takes up the places from that node on, one after the other.
`Document.Lies` says so. Where a tree is still growing, the nodes that are open lie on
the path to its last node; `Document.Built` describes the document from the innermost
of them, with what is finished at each level of the path.
-/

import MarkdownFormat.Proofs.Document.Edit
import MarkdownFormat.Proofs.Document.Tree

namespace MarkdownFormat

namespace Tree

mutual
/-- The number of nodes. -/
def size : Tree → Nat
  | .node _ children => sizeOfRow children + 1

/-- The number of nodes in a row of trees. -/
def sizeOfRow : List Tree → Nat
  | [] => 0
  | tree :: rest => tree.size + sizeOfRow rest
end

mutual
/-- A tree without the blank lines and the source ranges of its nodes. -/
def bare : Tree → Tree
  | .node label children =>
      .node { element := label.element, lines := label.lines } (bareRow children)

/-- A row of trees without blank lines and source ranges. -/
def bareRow : List Tree → List Tree
  | [] => []
  | tree :: rest => tree.bare :: bareRow rest
end

/-- A tree has a node at least. -/
theorem size_pos (tree : Tree) : 0 < tree.size := by
  cases tree
  exact Nat.succ_pos _

/-- Rows put together have the nodes of both. -/
theorem sizeOfRow_append (front back : List Tree) :
    sizeOfRow (front ++ back) = sizeOfRow front + sizeOfRow back := by
  induction front with
  | nil => simp [sizeOfRow]
  | cons tree front ih => rw [List.cons_append, sizeOfRow, ih, sizeOfRow, Nat.add_assoc]

/-- The place of the first tree of a row that starts at a place, or what comes after an
empty row. -/
def firstOfRow (after : Option Nat) (id : Nat) : List Tree → Option Nat
  | [] => after
  | _ :: _ => some id

/-- The place of the last tree of a row that starts at a place, or what comes before an
empty row. -/
def lastOfRow (before : Option Nat) (id : Nat) : List Tree → Option Nat
  | [] => before
  | tree :: rest => lastOfRow (some id) (id + tree.size) rest

/-- What comes first is in the first row that is not empty. -/
theorem firstOfRow_append (after : Option Nat) (id : Nat) (front back : List Tree) :
    firstOfRow after id (front ++ back) =
      firstOfRow (firstOfRow after (id + sizeOfRow front) back) id front := by
  cases front <;> rfl

/-- What comes last is in the last row that is not empty. -/
theorem lastOfRow_append (before : Option Nat) (id : Nat) (front back : List Tree) :
    lastOfRow before id (front ++ back) =
      lastOfRow (lastOfRow before id front) (id + sizeOfRow front) back := by
  induction front generalizing before id with
  | nil => rfl
  | cons tree front ih => rw [List.cons_append, lastOfRow, ih, lastOfRow, sizeOfRow, Nat.add_assoc]

/-- A row that is not empty has a last tree. -/
theorem isNone_lastOfRow {before : Option Nat} {id : Nat} {tree : Tree} {rest : List Tree} :
    (lastOfRow before id (tree :: rest)).isNone = false := by
  induction rest generalizing before id tree with
  | nil => rfl
  | cons next rest ih => exact @ih (some id) (id + tree.size) next

/-- The last tree of a row lies inside the row. -/
theorem lastOfRow_eq_some {before : Option Nat} {id last : Nat} {trees : List Tree}
    (hlast : lastOfRow before id trees = some last) :
    before = some last ∨ id ≤ last ∧ last < id + sizeOfRow trees := by
  induction trees generalizing before id with
  | nil => exact .inl hlast
  | cons tree trees ih =>
      have hpositive := tree.size_pos
      rw [sizeOfRow]
      rcases ih hlast with hfirst | ⟨hlow, hhigh⟩
      · cases hfirst
        exact .inr ⟨Nat.le_refl _, by omega⟩
      · exact .inr ⟨by omega, by omega⟩

end Tree

/-- Whether a node has the element and the lines of a label. Blank lines and source
ranges do not matter. -/
def Node.Carries (node : Node) (label : Label) : Prop :=
  node.element = label.element ∧ node.lines = label.lines

/-- A node whose children so far are known. -/
structure Shelf where
  label : Label
  trees : List Tree := []

namespace Document

variable (doc : Document)

mutual
/-- The tree takes up the places from the given one on. -/
def Lies : Tree → Nat → Prop
  | .node label children, id =>
      (doc.node id).Carries label ∧
        (doc.node id).firstChild = Tree.firstOfRow none (id + 1) children ∧
        (doc.node id).lastChild = Tree.lastOfRow none (id + 1) children ∧
        LiesRow id none none children (id + 1)

/-- The trees take up the places from the given one on, as neighbours below a node, with
one node before them and one after them. -/
def LiesRow (parent : Nat) (previous after : Option Nat) : List Tree → Nat → Prop
  | [], _ => True
  | tree :: rest, id =>
      (doc.node id).parent = some parent ∧ (doc.node id).previous = previous ∧
        (doc.node id).next = Tree.firstOfRow after (id + tree.size) rest ∧
        Lies tree id ∧ LiesRow parent (some id) after rest (id + tree.size)
end

/-- Around a node lie the shelves on the path from the root to it, the innermost first,
each with the finished trees before the next node of the path. -/
def Surrounds : List Shelf → List Nat → Nat → Prop
  | [], path, id => path = [] ∧ id = root
  | shelf :: outer, path, id =>
      ∃ parent rest, path = parent :: rest ∧ Surrounds outer rest parent ∧
        id = parent + 1 + Tree.sizeOfRow shelf.trees ∧
        (doc.node parent).Carries shelf.label ∧
        (doc.node parent).firstChild = Tree.firstOfRow (some id) (parent + 1) shelf.trees ∧
        (doc.node parent).lastChild = some id ∧
        doc.LiesRow parent none (some id) shelf.trees (parent + 1) ∧
        (doc.node id).parent = some parent ∧
        (doc.node id).previous = Tree.lastOfRow none (parent + 1) shelf.trees ∧
        (doc.node id).next = none

/-- The document ends with the innermost shelf, which lies at a node. -/
structure Built (shelf : Shelf) (outer : List Shelf) (id : Nat) (path : List Nat) :
    Prop where
  surrounds : doc.Surrounds outer path id
  lies : doc.Lies (.node shelf.label shelf.trees) id
  size_eq : doc.size = id + 1 + Tree.sizeOfRow shelf.trees

variable {doc} {changed : Document}

/-- Trees lie side by side if they do up to any place and from there on. -/
theorem liesRow_append {parent : Nat} {previous after : Option Nat}
    {front back : List Tree} {id : Nat} :
    doc.LiesRow parent previous after (front ++ back) id ↔
      doc.LiesRow parent previous
          (Tree.firstOfRow after (id + Tree.sizeOfRow front) back) front id ∧
        doc.LiesRow parent (Tree.lastOfRow previous id front) after back
          (id + Tree.sizeOfRow front) := by
  induction front generalizing previous id with
  | nil => simp [LiesRow, Tree.lastOfRow, Tree.sizeOfRow]
  | cons tree front ih =>
      rw [List.cons_append, LiesRow, LiesRow, ih, Tree.lastOfRow, Tree.sizeOfRow,
        Tree.firstOfRow_append, Nat.add_assoc]
      constructor
      · rintro ⟨hparent, hprevious, hnext, htree, hfront, hback⟩
        exact ⟨⟨hparent, hprevious, hnext, htree, hfront⟩, hback⟩
      · rintro ⟨⟨hparent, hprevious, hnext, htree, hfront⟩, hback⟩
        exact ⟨hparent, hprevious, hnext, htree, hfront, hback⟩

/-- A node keeps what it carries and its links to its children. -/
def KeepsInside (doc changed : Document) (id : Nat) : Prop :=
  (changed.node id).element = (doc.node id).element ∧
    (changed.node id).lines = (doc.node id).lines ∧
    (changed.node id).firstChild = (doc.node id).firstChild ∧
    (changed.node id).lastChild = (doc.node id).lastChild

/-- Changes outside of a tree, and to the outer links of its topmost node, do not concern
the tree. -/
theorem lies_congr_rows :
    (∀ (tree : Tree) (id : Nat), KeepsInside doc changed id →
      (∀ k, id < k → k < id + tree.size → changed.node k = doc.node k) →
      doc.Lies tree id → changed.Lies tree id) ∧
    ∀ (trees : List Tree) (id parent : Nat) (previous after : Option Nat),
      (∀ k, id ≤ k → k < id + Tree.sizeOfRow trees → changed.node k = doc.node k) →
      doc.LiesRow parent previous after trees id →
      changed.LiesRow parent previous after trees id := by
  apply Tree.rows_induction
  · intro label children ih id hinside hbelow hlies
    obtain ⟨⟨helement, hlines⟩, hfirst, hlast, hrow⟩ := hlies
    obtain ⟨hkeptElement, hkeptLines, hkeptFirst, hkeptLast⟩ := hinside
    refine ⟨⟨hkeptElement.trans helement, hkeptLines.trans hlines⟩, hkeptFirst.trans hfirst,
      hkeptLast.trans hlast, ih _ _ _ _ ?_ hrow⟩
    intro k hlow hhigh
    apply hbelow k hlow
    rw [Tree.size]
    omega
  · intro id parent previous after _ _
    trivial
  · intro tree rest ihTree ihRest id parent previous after hsame hlies
    obtain ⟨hparent, hprevious, hnext, htree, hrest⟩ := hlies
    rw [Tree.sizeOfRow] at hsame
    have hpositive := tree.size_pos
    have hid := hsame id (Nat.le_refl _) (by omega)
    refine ⟨by rw [hid, hparent], by rw [hid, hprevious], by rw [hid, hnext], ?_, ?_⟩
    · apply ihTree id ⟨by rw [hid], by rw [hid], by rw [hid], by rw [hid]⟩ _ htree
      intro k hlow hhigh
      exact hsame k (by omega) (by omega)
    · apply ihRest _ _ _ _ _ hrest
      intro k hlow hhigh
      exact hsame k (by omega) (by omega)

/-- Changes behind a node do not concern what lies around it, as long as the node keeps
its outer links. -/
theorem Surrounds.congr {outer : List Shelf} {path : List Nat} {id : Nat}
    (hsurrounds : doc.Surrounds outer path id)
    (hbefore : ∀ k < id, changed.node k = doc.node k)
    (hparent : (changed.node id).parent = (doc.node id).parent)
    (hprevious : (changed.node id).previous = (doc.node id).previous)
    (hnext : (changed.node id).next = (doc.node id).next) :
    changed.Surrounds outer path id := by
  induction outer generalizing path id with
  | nil => exact hsurrounds
  | cons shelf outer ih =>
      obtain ⟨parent, rest, rfl, hrest, rfl, hcarries, hfirst, hlast, hrow, hup, hleft, hright⟩ :=
        hsurrounds
      have hsame := hbefore parent (by omega)
      refine ⟨parent, rest, rfl, ?_, rfl, by rwa [hsame], by rw [hsame, hfirst],
        by rw [hsame, hlast], ?_, hparent.trans hup, hprevious.trans hleft, hnext.trans hright⟩
      · apply ih hrest
        · intro k hk
          exact hbefore k (by omega)
        · rw [hsame]
        · rw [hsame]
        · rw [hsame]
      · apply lies_congr_rows.2 _ _ _ _ _ _ hrow
        intro k hlow hhigh
        exact hbefore k (by omega)

/-- The innermost open node is there. -/
theorem Built.id_lt_size {shelf : Shelf} {outer : List Shelf} {id : Nat}
    {path : List Nat} (hbuilt : doc.Built shelf outer id path) : id < doc.size := by
  rw [hbuilt.size_eq]
  omega

/-- The last finished tree of the innermost shelf may as well be seen as a shelf of its
own, and the innermost shelf as a finished tree. -/
theorem built_append_iff {label inner : Label} {trees children : List Tree}
    {outer : List Shelf} {id : Nat} {path : List Nat} :
    doc.Built ⟨label, trees ++ [.node inner children]⟩ outer id path ↔
      doc.Built ⟨inner, children⟩ (⟨label, trees⟩ :: outer)
        (id + 1 + Tree.sizeOfRow trees) (id :: path) := by
  have hsize : id + 1 + Tree.sizeOfRow (trees ++ [.node inner children]) =
      id + 1 + Tree.sizeOfRow trees + 1 + Tree.sizeOfRow children := by
    simp only [Tree.sizeOfRow_append, Tree.sizeOfRow, Tree.size]
    omega
  constructor
  · rintro ⟨hsurrounds, ⟨hcarries, hfirst, hlast, hrow⟩, hdoc⟩
    obtain ⟨hfront, hparent, hprevious, hnext, hlies, -⟩ := liesRow_append.mp hrow
    rw [Tree.firstOfRow_append] at hfirst
    rw [Tree.lastOfRow_append] at hlast
    exact ⟨⟨id, path, rfl, hsurrounds, rfl, hcarries, hfirst, hlast, hfront, hparent, hprevious,
      hnext⟩, hlies, hdoc.trans hsize⟩
  · rintro ⟨⟨_, _, hpath, hsurrounds, -, hcarries, hfirst, hlast, hfront, hparent, hprevious,
      hnext⟩, hlies, hdoc⟩
    cases hpath
    refine ⟨hsurrounds, ⟨hcarries, ?_, ?_, ?_⟩, hdoc.trans hsize.symm⟩
    · rw [Tree.firstOfRow_append]
      exact hfirst
    · rw [Tree.lastOfRow_append]
      exact hlast
    · exact liesRow_append.mpr ⟨hfront, hparent, hprevious, hnext, hlies, trivial⟩

/-- A change of the topmost node of the shelf that keeps its links. -/
theorem Built.modify {shelf : Shelf} {outer : List Shelf} {id : Nat} {path : List Nat}
    (hbuilt : doc.Built shelf outer id path) {change : Node → Node} {label : Label}
    (hcarries : (change (doc.node id)).Carries label)
    (hlinks : ∀ node, (change node).parent = node.parent ∧
      (change node).firstChild = node.firstChild ∧ (change node).lastChild = node.lastChild ∧
      (change node).previous = node.previous ∧ (change node).next = node.next) :
    (doc.modify id change).Built ⟨label, shelf.trees⟩ outer id path := by
  have hid : (doc.modify id change).node id = change (doc.node id) :=
    node_modify_self hbuilt.id_lt_size change
  have hother : ∀ k, k ≠ id → (doc.modify id change).node k = doc.node k :=
    fun k hk => node_modify_of_ne hk change
  obtain ⟨hparent, hfirst, hlast, hprevious, hnext⟩ := hlinks (doc.node id)
  obtain ⟨-, hfirstChild, hlastChild, hrow⟩ := hbuilt.lies
  refine ⟨?_, ⟨by rwa [hid], by rw [hid, hfirst, hfirstChild], by rw [hid, hlast, hlastChild], ?_⟩,
    by rw [size_modify, hbuilt.size_eq]⟩
  · apply hbuilt.surrounds.congr
    · intro k hk
      exact hother k (by omega)
    · rw [hid, hparent]
    · rw [hid, hprevious]
    · rw [hid, hnext]
  · apply lies_congr_rows.2 _ _ _ _ _ _ hrow
    intro k hlow _
    exact hother k (by omega)

/-- A node without children. -/
def leaf (element : Element) : Tree :=
  .node { element } []

/-- A row goes on if its last node gets a neighbour. -/
theorem liesRow_extend {parent id : Nat} {trees : List Tree} {new : Nat}
    (hrow : doc.LiesRow parent none none trees id)
    (hlast : ∀ last, Tree.lastOfRow none id trees = some last →
      changed.node last = { doc.node last with next := some new })
    (hother : ∀ k, id ≤ k → k < id + Tree.sizeOfRow trees →
      Tree.lastOfRow none id trees ≠ some k → changed.node k = doc.node k) :
    changed.LiesRow parent none (some new) trees id := by
  rcases List.eq_nil_or_concat trees with rfl | ⟨front, last, rfl⟩
  · trivial
  · rw [List.concat_eq_append] at *
    obtain ⟨hfront, hparent, hprevious, hnext, hlies, -⟩ := liesRow_append.mp hrow
    have hpositive := last.size_pos
    simp only [Tree.lastOfRow_append, Tree.lastOfRow, Tree.sizeOfRow_append, Tree.sizeOfRow,
      Option.some.injEq, ne_eq] at hlast hother
    have hkept := hlast _ rfl
    refine liesRow_append.mpr ⟨?_, by rw [hkept]; exact hparent, by rw [hkept]; exact hprevious,
      by rw [hkept]; rfl, ?_, trivial⟩
    · apply lies_congr_rows.2 _ _ _ _ _ _ hfront
      intro k hlow hhigh
      exact hother k hlow (by omega) (by omega)
    · have hinside : KeepsInside doc changed (id + Tree.sizeOfRow front) :=
        ⟨by rw [hkept], by rw [hkept], by rw [hkept], by rw [hkept]⟩
      apply lies_congr_rows.1 _ _ hinside _ hlies
      intro k hlow hhigh
      exact hother k (by omega) (by omega) (by omega)

/-- A node that is added to the innermost shelf becomes its last finished tree. -/
theorem Built.append {label : Label} {trees : List Tree} {outer : List Shelf} {id : Nat}
    {path : List Nat} (hbuilt : doc.Built ⟨label, trees⟩ outer id path) (element : Element)
    (range : Segment) (blankBefore : Bool) :
    (doc.appendNew id element range blankBefore).Built ⟨label, trees ++ [leaf element]⟩ outer id
      path := by
  obtain ⟨hsurrounds, ⟨hcarries, hfirst, hlast, hrow⟩, hsize⟩ := hbuilt
  simp only at hcarries hfirst hlast hrow hsize
  have hinside : ∀ last, Tree.lastOfRow none (id + 1) trees = some last →
      id + 1 ≤ last ∧ last < doc.size := by
    intro last hfound
    rcases Tree.lastOfRow_eq_some hfound with hnone | ⟨hlow, hhigh⟩
    · cases hnone
    · exact ⟨hlow, by omega⟩
  have hnode := node_appendNew (show id < doc.size by omega)
    (fun last hfound => by
      obtain ⟨hlow, hhigh⟩ := hinside last (hlast ▸ hfound)
      exact ⟨hhigh, Nat.ne_of_gt hlow⟩) element range blankBefore
  rw [hlast] at hnode
  have hnew := (hnode doc.size).trans (if_pos rfl)
  have hid := (hnode id).trans ((if_neg (by omega)).trans (if_pos rfl))
  have hother : ∀ k, k < doc.size → k ≠ id → Tree.lastOfRow none (id + 1) trees ≠ some k →
      (doc.appendNew id element range blankBefore).node k = doc.node k := by
    intro k hk hkid hklast
    rw [hnode, if_neg (Nat.ne_of_lt hk), if_neg hkid, if_neg hklast]
  refine ⟨?_, ⟨?_, ?_, ?_, ?_⟩, ?_⟩
  · apply hsurrounds.congr
    · intro k hk
      apply hother k (by omega) (by omega)
      intro hfound
      have := (hinside k hfound).1
      omega
    · rw [hid]
    · rw [hid]
    · rw [hid]
  · rw [hid]
    exact hcarries
  · rw [hid]
    cases trees with
    | nil =>
        simp only [Tree.lastOfRow, Option.isNone_none, if_true, List.nil_append, Tree.firstOfRow]
        rw [hsize]
        rfl
    | cons tree rest =>
        have hsome : (Tree.lastOfRow none (id + 1) (tree :: rest)).isNone = false :=
          Tree.isNone_lastOfRow
        rw [hsome]
        exact hfirst
  · rw [hid, Tree.lastOfRow_append]
    exact congrArg some (by omega)
  · have hplace : id + 1 + Tree.sizeOfRow trees = doc.size := hsize.symm
    refine liesRow_append.mpr ⟨?_, ?_⟩
    · apply liesRow_extend hrow
      · intro last hfound
        obtain ⟨hlow, hhigh⟩ := hinside last hfound
        rw [hnode, if_neg (Nat.ne_of_lt hhigh), if_neg (Nat.ne_of_gt hlow), if_pos hfound, hplace]
      · intro k hlow hhigh hk
        exact hother k (by omega) (by omega) hk
    · rw [hplace]
      refine ⟨by rw [hnew], by rw [hnew], by rw [hnew]; rfl, ?_, trivial⟩
      exact ⟨by rw [hnew]; exact ⟨rfl, rfl⟩, by rw [hnew]; rfl, by rw [hnew]; rfl, trivial⟩
  · simp only [size_appendNew, Tree.sizeOfRow_append, Tree.sizeOfRow, Tree.size, leaf]
    omega

/-- A tree that lies in a document is held by it, up to blank lines and source ranges. -/
theorem exists_holds_rows :
    (∀ (tree : Tree) (id : Nat), doc.Lies tree id → id + tree.size ≤ doc.size →
      ∃ full : Tree, doc.Holds full id ∧ full.bare = tree.bare) ∧
    ∀ (trees : List Tree) (id parent : Nat) (previous : Option Nat),
      doc.LiesRow parent previous none trees id → id + Tree.sizeOfRow trees ≤ doc.size →
      (doc.node parent).lastChild = Tree.lastOfRow previous id trees →
      ∃ ids fulls, doc.Row parent previous (Tree.firstOfRow none id trees) ids ∧
        doc.HoldsEach fulls ids ∧ Tree.bareRow fulls = Tree.bareRow trees := by
  apply Tree.rows_induction
  · intro label children ih id hlies hsize
    obtain ⟨⟨helement, hlines⟩, hfirst, hlast, hrow⟩ := hlies
    rw [Tree.size] at hsize
    obtain ⟨ids, fulls, hids, hfulls, hbare⟩ := ih _ _ _ hrow (by omega) hlast
    have hid : id < doc.size := by omega
    refine ⟨.node (doc.node id).label fulls, ⟨hid, rfl, ids, ?_, hfulls⟩, ?_⟩
    · rw [hfirst]
      exact hids
    · rw [Tree.bare, Tree.bare, hbare, ← helement, ← hlines]
      rfl
  · intro id parent previous _ _ hlast
    exact ⟨[], [], ⟨rfl, hlast⟩, rfl, rfl⟩
  · intro tree rest ihTree ihRest id parent previous hlies hsize hlast
    obtain ⟨hparent, hprevious, hnext, htree, hrest⟩ := hlies
    rw [Tree.sizeOfRow] at hsize
    obtain ⟨full, hfull, hbare⟩ := ihTree id htree (by omega)
    obtain ⟨ids, fulls, hids, hfulls, hbares⟩ := ihRest _ _ _ hrest (by omega) hlast
    refine ⟨id :: ids, full :: fulls, ⟨rfl, hparent, hprevious, ?_⟩, ⟨id, ids, rfl, hfull, hfulls⟩,
      ?_⟩
    · rw [hnext]
      exact hids
    · rw [Tree.bareRow, Tree.bareRow, hbare, hbares]

/-- With no shelf around it, the innermost shelf is the whole document. -/
theorem Built.exists_holds {shelf : Shelf} {id : Nat} {path : List Nat}
    (hbuilt : doc.Built shelf [] id path) :
    ∃ full : Tree, doc.Holds full root ∧
      full.bare = (Tree.node shelf.label shelf.trees).bare := by
  obtain ⟨⟨-, hroot⟩, hlies, hsize⟩ := hbuilt
  rw [hroot] at hlies hsize
  apply exists_holds_rows.1 _ _ hlies
  rw [Tree.size]
  omega

/-- When all nodes are closed but the root, the document has the nodes of one tree. -/
theorem Built.size_eq_tree {shelf : Shelf} {id : Nat} {path : List Nat}
    (hbuilt : doc.Built shelf [] id path) :
    doc.size = (Tree.node shelf.label shelf.trees).size := by
  have hroot : id = 0 := hbuilt.surrounds.2
  rw [hbuilt.size_eq, hroot, Tree.size, Nat.zero_add, Nat.add_comm]

end Document

end MarkdownFormat
