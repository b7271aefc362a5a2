/-
# The open nodes of an assembly

The document of an assembly grows at its end only, so it always ends with the innermost
open node and what is finished below it. Each step of an assembly is an edit of this
node, opens a node inside of it or closes it.
-/

import MarkdownFormat.Event.Assembly
import MarkdownFormat.Proofs.Document.Layout

namespace MarkdownFormat.Assembly

open Document

variable {a b : Assembly} {label inner : Label} {trees children : List Tree}
  {outer : List Shelf}

/-- What holds of a node that is found with its element. -/
theorem found_of_map_element {document : Document} {found : Option NodeId} {id : NodeId}
    {element : Element}
    (hmap : found.map (fun id => (id, (document.node id).element)) = some (id, element)) :
    found = some id ∧ (document.node id).element = element := by
  obtain ⟨_, hfound, heq⟩ := Option.map_eq_some_iff.mp hmap
  obtain ⟨rfl, helement⟩ := Prod.mk.inj heq
  exact ⟨hfound, helement⟩

/-- Adding to an assembly is appending to its document. -/
theorem document_add (parent : Nat) (element : Element) (range : Segment) (blankBefore : Bool) :
    (a.add parent element range blankBefore).document =
      a.document.appendNew parent element range blankBefore := by
  rw [add, appendNew]

@[simp]
theorem openNodes_add (parent : Nat) (element : Element) (range : Segment)
    (blankBefore : Bool) :
    (a.add parent element range blankBefore).openNodes = a.openNodes := by
  rw [add]

@[simp]
theorem document_touch (stop : Nat) : (a.touch stop).document = a.document := by
  rw [touch]

@[simp]
theorem openNodes_touch (stop : Nat) : (a.touch stop).openNodes = a.openNodes := by
  rw [touch]

/-- The innermost open node depends on the open nodes alone. -/
theorem top_eq_of_openNodes (hopenNodes : b.openNodes = a.openNodes) : b.top = a.top := by
  rw [top, top, hopenNodes]

@[simp]
theorem document_push (id : NodeId) : (a.push id).document = a.document := rfl

@[simp]
theorem openNodes_push (id : NodeId) : (a.push id).openNodes = id :: a.openNodes := rfl

@[simp]
theorem top_push (id : NodeId) : (a.push id).top = id := rfl

@[simp]
theorem document_pop : a.pop.document = a.document := rfl

@[simp]
theorem openNodes_pop : a.pop.openNodes = a.openNodes.tail := rfl

@[simp]
theorem document_closeTextBlock : a.closeTextBlock.document = a.document := by
  rw [closeTextBlock]
  split <;> rfl

/-- The open nodes are the given shelves, the innermost first. -/
def Stands (a : Assembly) : List Shelf → Prop
  | [] => False
  | shelf :: outer =>
      a.document.Built shelf outer a.top (a.openNodes ++ [Document.root]).tail

/-- The root stays open below all others. -/
theorem openNodes_eq_top_cons (a : Assembly) :
    a.openNodes ++ [Document.root] = a.top :: (a.openNodes ++ [Document.root]).tail := by
  rw [top]
  cases a.openNodes <;> rfl

/-- A document that is built as far as its open nodes stands on them. -/
theorem stands_of_built {doc : Document} {shelf : Shelf} {id : Nat} {path : List Nat}
    (hbuilt : doc.Built shelf outer id path) (hdocument : a.document = doc)
    (hopenNodes : a.openNodes ++ [Document.root] = id :: path) : a.Stands (shelf :: outer) := by
  have htop := openNodes_eq_top_cons a
  rw [hopenNodes] at htop
  obtain ⟨hid, hpath⟩ := List.cons.inj htop
  rw [Stands, hdocument, ← hid, hopenNodes]
  exact hbuilt

/-- Only the document and the open nodes matter. -/
theorem Stands.congr {shelves : List Shelf} (hstands : a.Stands shelves)
    (hdocument : b.document = a.document) (hopenNodes : b.openNodes = a.openNodes) :
    b.Stands shelves := by
  cases shelves with
  | nil => exact hstands
  | cons shelf outer =>
      rw [Stands, top, hdocument, hopenNodes]
      exact hstands

/-- The innermost shelf is labelled with the innermost open node. -/
theorem Stands.topElement_eq (hstands : a.Stands (⟨label, trees⟩ :: outer)) :
    a.topElement = label.element :=
  hstands.lies.1.1

/-- The last tree on the innermost shelf starts at the last child. -/
theorem Stands.lastChild_eq (hstands : a.Stands (⟨label, trees⟩ :: outer)) :
    (a.document.node a.top).lastChild = Tree.lastOfRow none (a.top + 1) trees :=
  hstands.lies.2.2.1

/-- So the place of the last child is behind all trees before it. -/
theorem Stands.lastChild_concat {tree : Tree}
    (hstands : a.Stands (⟨label, trees ++ [tree]⟩ :: outer)) :
    (a.document.node a.top).lastChild = some (a.top + 1 + Tree.sizeOfRow trees) := by
  rw [hstands.lastChild_eq, Tree.lastOfRow_append]
  rfl

/-- Ranges do not count. -/
theorem Stands.touch {shelves : List Shelf} (hstands : a.Stands shelves) (stop : Nat) :
    (a.touch stop).Stands shelves :=
  hstands.congr (document_touch stop) (openNodes_touch stop)

/-- An added node goes on the innermost shelf as a leaf. -/
theorem Stands.add (hstands : a.Stands (⟨label, trees⟩ :: outer)) (element : Element)
    (range : Segment) (blankBefore : Bool) :
    (a.add a.top element range blankBefore).Stands (⟨label, trees ++ [leaf element]⟩ :: outer) :=
  stands_of_built (Built.append hstands element range blankBefore) (document_add _ _ _ _)
    (by rw [openNodes_add, ← openNodes_eq_top_cons])

/-- A node that is added can be opened. -/
theorem Stands.open (hstands : a.Stands (⟨label, trees⟩ :: outer)) (element : Element)
    (range : Segment) (blankBefore : Bool) :
    ((a.add a.top element range blankBefore).push a.document.size).Stands
      (⟨{ element }, []⟩ :: ⟨label, trees⟩ :: outer) := by
  have hadd := built_append_iff.mp (Built.append hstands element range blankBefore)
  have hplace : a.top + 1 + Tree.sizeOfRow trees = a.document.size := hstands.size_eq.symm
  rw [hplace, ← openNodes_eq_top_cons] at hadd
  apply stands_of_built hadd
  · rw [document_push, document_add]
  · rw [openNodes_push, openNodes_add, List.cons_append]

/-- A node that is closed becomes the last finished tree of the node around it. -/
theorem Stands.pop (hstands : a.Stands (⟨inner, children⟩ :: ⟨label, trees⟩ :: outer)) :
    a.pop.Stands (⟨label, trees ++ [.node inner children]⟩ :: outer) := by
  have hbuilt : a.document.Built ⟨inner, children⟩ (⟨label, trees⟩ :: outer) a.top
      (a.openNodes ++ [Document.root]).tail := hstands
  obtain ⟨parent, rest, hpath, -, hplace, -⟩ := hbuilt.surrounds
  have hopen : a.pop.openNodes ++ [Document.root] = parent :: rest := by
    rw [← hpath, Assembly.pop]
    cases hnodes : a.openNodes with
    | nil => simp [hnodes] at hpath
    | cons id nodes => rfl
  rw [hpath, hplace] at hbuilt
  exact stands_of_built (built_append_iff.mpr hbuilt) document_pop hopen

/-- Content lines are part of the label of the innermost shelf. -/
theorem Stands.setLines (hstands : a.Stands (⟨label, trees⟩ :: outer)) (lines : List Value) :
    (a.setLines lines).Stands (⟨{ label with lines }, trees⟩ :: outer) := by
  refine stands_of_built (Built.modify hstands ⟨hstands.lies.1.1, rfl⟩ ?_) rfl
    (openNodes_eq_top_cons a)
  intro node
  exact ⟨rfl, rfl, rfl, rfl, rfl⟩

/-- The last finished tree is found below the innermost open node. -/
theorem Stands.element_last
    (hstands : a.Stands (⟨label, trees ++ [.node inner children]⟩ :: outer)) :
    (a.document.node (a.top + 1 + Tree.sizeOfRow trees)).element = inner.element :=
  (built_append_iff.mp hstands).lies.1.1

/-- The last finished tree can get another element. -/
theorem Stands.setElement_last
    (hstands : a.Stands (⟨label, trees ++ [.node inner children]⟩ :: outer))
    (element : Element) :
    Assembly.Stands
      { a with
        document := a.document.setElement (a.top + 1 + Tree.sizeOfRow trees) element }
      (⟨label, trees ++ [.node { inner with element } children]⟩ :: outer) := by
  have hinner := built_append_iff.mp hstands
  refine stands_of_built (built_append_iff.mpr (hinner.modify ⟨rfl, hinner.lies.1.2⟩ ?_)) rfl
    (openNodes_eq_top_cons a)
  intro node
  exact ⟨rfl, rfl, rfl, rfl, rfl⟩

end MarkdownFormat.Assembly
