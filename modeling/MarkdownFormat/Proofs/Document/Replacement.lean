/-
# A node that gives way to others

In the list that it stands in, a node may be replaced by others. The lists of the other
nodes stay as they are, so whether a node has children and what stands before it can be
told from the document as it was, and the visits to every node are the same but for those
to the one that is gone.
-/

import MarkdownFormat.Proofs.Document.Visits

namespace MarkdownFormat.Document

variable {doc changed : Document}

/-- Other nodes in the place of a node, and every other node by itself. -/
def inPlace (id : NodeId) (others : List NodeId) (k : NodeId) : List NodeId :=
  if k = id then others else [k]

section InPlace

variable {id : NodeId} {others : List NodeId}

/-- The node itself gives way. -/
theorem inPlace_self : inPlace id others id = others :=
  if_pos rfl

/-- Every other node stays. -/
theorem inPlace_of_ne {k : NodeId} (hk : k ≠ id) : inPlace id others k = [k] :=
  if_neg hk

/-- A list without the node stays as it is. -/
theorem flatMap_inPlace_of_notMem {ids : List NodeId} (hid : id ∉ ids) :
    ids.flatMap (inPlace id others) = ids := by
  have hself : ∀ k ∈ ids, inPlace id others k = [k] := fun k hk =>
    inPlace_of_ne fun heq => hid (heq ▸ hk)
  rw [List.flatMap_congr hself, List.flatMap_singleton']

/-- In a list with the node, the others stand where it stood. -/
theorem flatMap_inPlace_append {front back : List NodeId} (hfront : id ∉ front)
    (hback : id ∉ back) :
    (front ++ id :: back).flatMap (inPlace id others) = front ++ (others ++ back) := by
  rw [List.flatMap_append, List.flatMap_cons, inPlace_self, flatMap_inPlace_of_notMem hfront,
    flatMap_inPlace_of_notMem hback]

end InPlace

/-- One node gives way to others in the list that it stands in. No other list is different but
that of its own children, and the other nodes are what they were. -/
structure IsReplaced (doc changed : Document) (id : NodeId) (others : List NodeId) : Prop where
  wellFormed : doc.WellFormed
  wellFormed_changed : changed.WellFormed
  id_lt_size : id < doc.size
  size_le : doc.size ≤ changed.size
  others_ne_nil : others ≠ []
  children_eq : ∀ k ≠ id, changed.children k = (doc.children k).flatMap (inPlace id others)
  label_eq : ∀ k ≠ id, k < doc.size → (changed.node k).label = (doc.node k).label
  /-- What stands below no node is not put below one. -/
  top : ∀ k < doc.size, (doc.node k).parent = none → (changed.node k).parent = none

namespace IsReplaced

variable {id : NodeId} {others : List NodeId}

/-- What is to be known of the lists of children. -/
theorem of_children (hwellFormed : doc.WellFormed) (hchanged : changed.WellFormed)
    {parent : NodeId} {front back : List NodeId} (hsize : doc.size ≤ changed.size)
    (hsplit : doc.children parent = front ++ id :: back)
    (hrow : changed.children parent = front ++ (others ++ back))
    (hchildren : ∀ k ≠ id, k ≠ parent → changed.children k = doc.children k)
    (hbelow : changed.children id ⊆ doc.children id)
    (hnil : others ≠ []) (hothers : ∀ k ∈ others, k < doc.size → (doc.node k).parent ≠ none)
    (hlabel : ∀ k ≠ id, k < doc.size → (changed.node k).label = (doc.node k).label) :
    doc.IsReplaced changed id others := by
  have hmem := hwellFormed.notMem_of_split hsplit
  have hparent := hwellFormed.isParent_of_split hsplit
  refine ⟨hwellFormed, hchanged, lt_size_of_parent hparent, hsize, hnil, fun k hk => ?_, hlabel,
    fun k hk htop => ?_⟩
  · by_cases hkparent : k = parent
    · rw [hkparent, hrow, hsplit, flatMap_inPlace_append
        (fun hfront => hmem (List.mem_append_left back hfront))
        fun hback => hmem (List.mem_append_right front hback)]
    · rw [hchildren k hk hkparent,
        flatMap_inPlace_of_notMem (hwellFormed.notMem_children hparent hkparent)]
  · -- Each member of a list of children after the edit stood below some node before.
    by_contra hsome
    obtain ⟨upper, hupper⟩ := Option.ne_none_iff_exists'.mp hsome
    have hold : ∀ other, k ∉ doc.children other := by
      intro other
      rw [hwellFormed.mem_children, htop]
      nofun
    have hnew := (hchanged.mem_children upper k).mpr hupper
    by_cases hid : upper = id
    · exact hold id (hbelow (hid ▸ hnew))
    · by_cases hupperParent : upper = parent
      · rw [hupperParent, hrow] at hnew
        have hrest : k ∉ front ++ id :: back := hsplit ▸ hold parent
        simp only [List.mem_append, List.mem_cons, not_or] at hnew hrest
        rcases hnew with hfront | hmoved | hback
        · exact hrest.1 hfront
        · exact hothers k hmoved hk htop
        · exact hrest.2.2 hback
      · rw [hchildren upper hid hupperParent] at hnew
        exact hold upper hnew

variable (hreplaced : doc.IsReplaced changed id others)
include hreplaced

/-- No node is left without anything in its place. -/
theorem inPlace_ne_nil (k : NodeId) : inPlace id others k ≠ [] := by
  rw [inPlace]
  split
  · exact hreplaced.others_ne_nil
  · exact List.cons_ne_nil k []

/-- Whether a node has children does not change. -/
theorem hasChildren_eq {k : NodeId} (hk : k ≠ id) : changed.hasChildren k = doc.hasChildren k := by
  rw [hasChildren, hasChildren, hreplaced.wellFormed.rows.firstChild_eq,
    hreplaced.wellFormed_changed.rows.firstChild_eq, hreplaced.children_eq k hk]
  cases doc.children k with
  | nil => rfl
  | cons child rest =>
      obtain ⟨head, tail, hhead⟩ := List.exists_cons_of_ne_nil (hreplaced.inPlace_ne_nil child)
      rw [List.flatMap_cons, hhead]
      rfl

/-- Before a node stands what stood before it, or the last of the nodes that have come into the
place of that. -/
theorem previous_eq {k : NodeId} (hid : k ≠ id) (hk : k < doc.size)
    (hrow : ∀ parent, doc.IsParent parent k →
      changed.children parent = (doc.children parent).flatMap (inPlace id others)) :
    (changed.node k).previous =
      (doc.node k).previous.bind fun previous => (inPlace id others previous).getLast? := by
  cases hparent : (doc.node k).parent with
  | none =>
      have htop := hreplaced.top k hk hparent
      rw [(hreplaced.wellFormed.unlinked k hparent).1,
        (hreplaced.wellFormed_changed.unlinked k htop).1]
      rfl
  | some parent =>
      obtain ⟨front, back, hsplit, hprevious, -⟩ :=
        hreplaced.wellFormed.rows.exists_split hparent
      have hnew := hrow parent hparent
      rw [hsplit, List.flatMap_append, List.flatMap_cons, inPlace_of_ne hid] at hnew
      rw [(hreplaced.wellFormed_changed.rows.neighbours hnew).1, hprevious]
      rcases List.eq_nil_or_concat' front with rfl | ⟨init, last, rfl⟩
      · rfl
      · rw [List.flatMap_append, List.flatMap_singleton,
          List.getLast?_append_of_ne_nil _ (hreplaced.inPlace_ne_nil last), List.getLast?_concat,
          Option.bind_some]

/-- The visits to the other nodes take the place of the visits to the node, provided that they
do so if its children are visited as before. -/
theorem calls_eq {write : NodeId × Phase → List (NodeId × Phase)}
    (hwrite : ∀ k ≠ id, ∀ phase, write (k, phase) = [(k, phase)])
    (hself : (∀ child ∈ doc.children id, changed.calls child = (doc.calls child).flatMap write) →
      others.flatMap changed.calls = (doc.calls id).flatMap write) {k : NodeId} (hk : k ≠ id) :
    changed.calls k = (doc.calls k).flatMap write := by
  have hwellFormed := hreplaced.wellFormed
  have hsize : 0 < doc.size := Nat.zero_lt_of_lt hreplaced.id_lt_size
  suffices hall : ∀ k, (inPlace id others k).flatMap changed.calls = (doc.calls k).flatMap write by
    have hcalls := hall k
    rwa [inPlace_of_ne hk, List.flatMap_singleton] at hcalls
  intro k
  induction k using hwellFormed.children_induction with
  | hstep k ih =>
      by_cases hk : k = id
      · rw [hk, inPlace_self]
        apply hself
        intro child hchild
        have hne : child ≠ id :=
          hwellFormed.ne_of_isParent ((hwellFormed.mem_children id child).mp hchild)
        have hcalls := ih child (hk ▸ hchild)
        rwa [inPlace_of_ne hne, List.flatMap_singleton] at hcalls
      · have hbelow : (changed.children k).flatMap changed.calls =
            ((doc.children k).flatMap doc.calls).flatMap write := by
          rw [hreplaced.children_eq k hk, List.flatMap_assoc, List.flatMap_assoc,
            List.flatMap_congr ih]
        rw [inPlace_of_ne hk, List.flatMap_singleton,
          hreplaced.wellFormed_changed.calls_eq (Nat.lt_of_lt_of_le hsize hreplaced.size_le),
          hbelow, hwellFormed.calls_eq hsize, List.flatMap_cons, hwrite k hk, List.flatMap_append,
          List.flatMap_singleton, hwrite k hk]
        rfl

end IsReplaced

/-- Another element does not touch a link. -/
theorem sameLinks_setElement (id : NodeId) (element : Element) (k : NodeId) :
    doc.SameLinks (doc.setElement id element) k := by
  rw [SameLinks, SamePlace, setElement, node_modify]
  split <;> simp

/-- Setting an element leaves all children in place. -/
theorem WellFormed.children_setElement (hwellFormed : doc.WellFormed) (id : NodeId)
    (element : Element) (k : NodeId) : (doc.setElement id element).children k = doc.children k :=
  (hwellFormed.rows.congr (by simp [setElement]) (sameLinks_setElement id element)).children_eq k

/-- What the node itself is makes no difference. -/
theorem IsReplaced.setElement {id : NodeId} {others : List NodeId}
    (hreplaced : doc.IsReplaced changed id others) (element : Element) :
    doc.IsReplaced (changed.setElement id element) id others where
  wellFormed := hreplaced.wellFormed
  wellFormed_changed := (hreplaced.wellFormed_changed.isForest.congr (by simp [Document.setElement])
    (sameLinks_setElement id element)).wellFormed
  id_lt_size := hreplaced.id_lt_size
  size_le := by
    rw [Document.setElement, size_modify]
    exact hreplaced.size_le
  others_ne_nil := hreplaced.others_ne_nil
  children_eq k hk := by
    rw [hreplaced.wellFormed_changed.children_setElement]
    exact hreplaced.children_eq k hk
  label_eq k hid hk := by
    rw [Document.setElement, node_modify_of_ne hid]
    exact hreplaced.label_eq k hid hk
  top k hk htop :=
    (sameLinks_setElement id element k).1.1.trans (hreplaced.top k hk htop)

/-- Adds a node right before another one. -/
def insertNew (doc : Document) (parent before : NodeId) (element : Element) : Document :=
  (doc.addNode element).insertBefore parent before doc.size

/-- A new node has no links, and the others keep theirs. -/
theorem sameLinks_addNode (element : Element) (k : NodeId) :
    doc.SameLinks (doc.addNode element) k := by
  by_cases hk : k = doc.size
  · simp [SameLinks, SamePlace, hk, node_addNode, node_of_size_le]
  · simp [SameLinks, SamePlace, hk, node_addNode]

@[simp]
theorem size_insertNew (parent before : NodeId) (element : Element) :
    (doc.insertNew parent before element).size = doc.size + 1 := by
  rw [insertNew, size_insertBefore, size_addNode]

namespace WellFormed

variable (hwellFormed : doc.WellFormed)
include hwellFormed

/-- A new node stands in no row. -/
theorem rows_addNode (element : Element) : (doc.addNode element).Rows doc.children :=
  hwellFormed.rows.congr (by simp) (sameLinks_addNode element)

/-- A new node stands above no other. -/
theorem not_isAbove_addNode (element : Element) {k : NodeId} (hk : k < doc.size) :
    ¬ (doc.addNode element).IsAbove doc.size k := by
  intro habove
  rcases Relation.ReflTransGen.cases_head habove with heq | ⟨child, hchild, -⟩
  · exact Nat.lt_irrefl _ (heq ▸ hk)
  · have hmem := ((hwellFormed.rows_addNode element).mem_of_parent hchild).2
    rw [children_of_size_le (Nat.le_refl _)] at hmem
    cases hmem

variable {parent before : NodeId} (hparent : doc.IsParent parent before) (element : Element)
include hparent

/-- The document with the inserted node is a forest again. -/
theorem isForest_insertNew : (doc.insertNew parent before element).IsForest :=
  (hwellFormed.isForest.addNode element).insertBefore
    (by rw [size_addNode]; exact Nat.lt_succ_self _)
    ((sameLinks_addNode element before).1.1.trans hparent)
    (Nat.ne_of_lt (lt_size_of_parent hparent))
    (hwellFormed.not_isAbove_addNode element (hwellFormed.rows.mem_of_parent hparent).1)

/-- The new node comes into one list; the other nodes are what they were. -/
theorem exists_rows_insertNew : ∃ front back, doc.children parent = front ++ before :: back ∧
    (doc.insertNew parent before element).Rows
      (Function.update doc.children parent (front ++ doc.size :: before :: back)) ∧
    ∀ k, ((doc.insertNew parent before element).node k).label =
      if k = doc.size then { element } else (doc.node k).label := by
  have hrows := hwellFormed.rows_addNode element
  have hlt : parent < (doc.addNode element).size := by
    rw [size_addNode]
    exact Nat.lt_succ_of_lt (hwellFormed.rows.mem_of_parent hparent).1
  have hnew : doc.size < (doc.addNode element).size := by
    rw [size_addNode]
    exact Nat.lt_succ_self _
  have herase : ∀ k, (doc.children k).erase doc.size = doc.children k := fun k =>
    List.erase_of_not_mem fun hmem => Nat.lt_irrefl _ (hwellFormed.rows.lt_size hmem)
  obtain ⟨front, back, hsplit⟩ :=
    List.append_of_mem ((hwellFormed.mem_children parent before).mpr hparent)
  have hplace := (herase parent).trans hsplit
  have hinserted := hrows.insertBefore hlt hnew hplace
  rw [funext herase] at hinserted
  refine ⟨front, back, hsplit, hinserted, fun k => ?_⟩
  rw [insertNew, hrows.label_insertBefore hlt hnew hplace, node_addNode]
  split <;> rfl

/-- Only the inserted node gets a label, and that of a new node. -/
theorem label_insertNew (k : NodeId) : ((doc.insertNew parent before element).node k).label =
    if k = doc.size then { element } else (doc.node k).label := by
  obtain ⟨front, back, -, -, hlabel⟩ := hwellFormed.exists_rows_insertNew hparent element
  exact hlabel k

/-- Only the inserted node gets an element. -/
theorem element_insertNew (k : NodeId) :
    ((doc.insertNew parent before element).node k).element =
      if k = doc.size then element else (doc.node k).element := by
  rw [← Node.element_label, hwellFormed.label_insertNew hparent]
  split <;> rfl

/-- No other parent gets the inserted node. -/
theorem children_insertNew {k : NodeId} (hk : k ≠ parent) :
    (doc.insertNew parent before element).children k = doc.children k := by
  obtain ⟨front, back, -, hrows, -⟩ := hwellFormed.exists_rows_insertNew hparent element
  rw [hrows.children_eq, Function.update_of_ne hk]

/-- Inserting puts two nodes in the place of the one that it is done before. -/
theorem isReplaced_insertNew :
    doc.IsReplaced (doc.insertNew parent before element) before [doc.size, before] := by
  obtain ⟨front, back, hsplit, hrows, hlabel⟩ :=
    hwellFormed.exists_rows_insertNew hparent element
  have hbefore : before ≠ parent := hwellFormed.ne_of_isParent hparent
  refine .of_children hwellFormed (hwellFormed.isForest_insertNew hparent element).wellFormed
    (by rw [size_insertNew]; exact Nat.le_succ _) hsplit ?row
    (fun k _ => hwellFormed.children_insertNew hparent element) ?below (List.cons_ne_nil _ _)
    ?others fun k _ hk => ?label
  case row => rw [hrows.children_eq, Function.update_self]; rfl
  case below =>
    rw [hwellFormed.children_insertNew hparent element hbefore]
    exact List.Subset.refl _
  case others =>
    intro k hk hlt
    rcases List.mem_cons.mp hk with rfl | hk
    · exact absurd hlt (Nat.lt_irrefl _)
    · rw [List.mem_singleton.mp hk, hparent]
      nofun
  case label => rw [hlabel, if_neg (Nat.ne_of_lt hk)]

end WellFormed

end MarkdownFormat.Document
