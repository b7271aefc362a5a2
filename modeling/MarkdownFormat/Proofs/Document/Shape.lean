/-
# Which nodes stand below which

A list item holds blocks. Inline content in an item stands in text blocks, which stand
nowhere else, hold nothing but inline nodes and never follow one another.
`Kind.Admits` says so for the children of one node; `Shelf.Fits` for a tree that is still
growing, from its innermost open node outwards.
-/

import Mathlib.Data.List.Chain
import MarkdownFormat.Proofs.Document.Layout

namespace MarkdownFormat

/-- Nodes of the given kinds may stand below a node of a kind, in this order. -/
structure Kind.Admits (kind : Kind) (kinds : List Kind) : Prop where
  blocks : kind = .listItem → ∀ child ∈ kinds, child.isBlock
  inlines : kind = .textBlock → ∀ child ∈ kinds, child.isBlock = false
  textBlocks : .textBlock ∈ kinds → kind = .listItem
  apart : kinds.IsChain fun first second => first = .textBlock → second ≠ .textBlock

namespace Kind.Admits

variable {kind child : Kind} {kinds : List Kind}

/-- No children are admitted everywhere. -/
theorem nil : kind.Admits [] where
  blocks _ _ hchild := nomatch hchild
  inlines _ _ hchild := nomatch hchild
  textBlocks hmem := nomatch hmem
  apart := .nil

/-- One more child has to suit the kind and the child before it. -/
theorem concat (hkinds : kind.Admits kinds) (hblock : kind = .listItem → child.isBlock)
    (hinline : kind = .textBlock → child.isBlock = false)
    (htextBlock : child = .textBlock →
      kind = .listItem ∧ kinds.getLast? ≠ some .textBlock) :
    kind.Admits (kinds ++ [child]) where
  blocks hkind := List.forall_mem_append.mpr
    ⟨hkinds.blocks hkind, List.forall_mem_singleton.mpr (hblock hkind)⟩
  inlines hkind := List.forall_mem_append.mpr
    ⟨hkinds.inlines hkind, List.forall_mem_singleton.mpr (hinline hkind)⟩
  textBlocks hmem := by
    rcases List.mem_append.mp hmem with hmem | hmem
    · exact hkinds.textBlocks hmem
    · exact (htextBlock (List.mem_singleton.mp hmem).symm).1
  apart := by
    apply hkinds.apart.append (.singleton _)
    intro last hlast next hnext hfirst hsecond
    cases hnext
    exact (htextBlock hsecond).2 (hfirst ▸ hlast)

/-- A block other than a text block goes anywhere but into a text block. -/
theorem concat_block (hkinds : kind.Admits kinds) (hblock : child.isBlock)
    (hchild : child ≠ .textBlock) (hkind : kind ≠ .textBlock) :
    kind.Admits (kinds ++ [child]) :=
  hkinds.concat (fun _ => hblock) (fun h => absurd h hkind) fun h => absurd h hchild

/-- An inline node goes anywhere but into an item. -/
theorem concat_inline (hkinds : kind.Admits kinds) (hinline : child.isBlock = false)
    (hkind : kind ≠ .listItem) : kind.Admits (kinds ++ [child]) := by
  apply hkinds.concat (fun h => absurd h hkind) fun _ => hinline
  rintro rfl
  cases hinline

end Kind.Admits

namespace Tree

mutual
/-- Everywhere in the tree the children of a node may stand below it, and no text block
is empty. -/
def IsShaped : Tree → Prop
  | .node label children =>
      label.element.kind.Admits (children.map kind) ∧
        (label.element.kind = .textBlock → children ≠ []) ∧ AreShaped children

/-- The trees are shaped. -/
def AreShaped : List Tree → Prop
  | [] => True
  | tree :: rest => tree.IsShaped ∧ AreShaped rest
end

/-- Trees side by side are of the right shape one by one. -/
theorem areShaped_append {front back : List Tree} :
    AreShaped (front ++ back) ↔ AreShaped front ∧ AreShaped back := by
  induction front with
  | nil => simp [AreShaped]
  | cons tree front ih => rw [List.cons_append, AreShaped, AreShaped, ih, and_assoc]

/-- So they are with one more. -/
theorem areShaped_concat {trees : List Tree} {tree : Tree} :
    AreShaped (trees ++ [tree]) ↔ AreShaped trees ∧ tree.IsShaped := by
  rw [areShaped_append, AreShaped, AreShaped, and_true]

/-- A leaf is of the right shape, unless it is a text block. -/
theorem isShaped_leaf {element : Element} (helement : element.kind ≠ .textBlock) :
    (Document.leaf element).IsShaped :=
  ⟨.nil, fun h => absurd h helement, trivial⟩

end Tree

namespace Shelf

/-- The kind of the node that the shelf belongs to. -/
def kind (shelf : Shelf) : Kind :=
  shelf.label.element.kind

/-- The shelves around an open node, the last child of the innermost of them, which is of
the given kind. Around the root there are none. -/
def AreAround (inner : Kind) : List Shelf → Prop
  | [] => inner = .document
  | shelf :: outer =>
      shelf.kind.Admits (shelf.trees.map Tree.kind ++ [inner]) ∧
        Tree.AreShaped shelf.trees ∧ AreAround shelf.kind outer

/-- What is there so far is shaped, except that the innermost node may be a text block
that is still empty. -/
structure Fits (shelf : Shelf) (outer : List Shelf) : Prop where
  admits : shelf.kind.Admits (shelf.trees.map Tree.kind)
  areShaped : Tree.AreShaped shelf.trees
  areAround : AreAround shelf.kind outer

namespace Fits

variable {label inner : Label} {trees children : List Tree} {outer : List Shelf}

/-- A tree may be put behind those that are there. -/
theorem add (hfits : Fits ⟨label, trees⟩ outer) {tree : Tree} (htree : tree.IsShaped)
    (hadmits : label.element.kind.Admits (trees.map Tree.kind ++ [tree.kind])) :
    Fits ⟨label, trees ++ [tree]⟩ outer where
  admits := by
    rw [List.map_append]
    exact hadmits
  areShaped := Tree.areShaped_concat.mpr ⟨hfits.areShaped, htree⟩
  areAround := hfits.areAround

/-- A node may be opened behind them. -/
theorem opened (hfits : Fits ⟨label, trees⟩ outer) {element : Element}
    (hadmits : label.element.kind.Admits (trees.map Tree.kind ++ [element.kind])) :
    Fits ⟨{ element }, []⟩ (⟨label, trees⟩ :: outer) where
  admits := .nil
  areShaped := trivial
  areAround := ⟨hadmits, hfits.areShaped, hfits.areAround⟩

/-- An open node may be closed, a text block only if it is not empty. -/
theorem closed (hfits : Fits ⟨inner, children⟩ (⟨label, trees⟩ :: outer))
    (hchildren : inner.element.kind = .textBlock → children ≠ []) :
    Fits ⟨label, trees ++ [.node inner children]⟩ outer := by
  obtain ⟨hadmits, hshaped, haround⟩ := hfits.areAround
  have hinner : (Tree.node inner children).IsShaped :=
    ⟨hfits.admits, hchildren, hfits.areShaped⟩
  refine ⟨?_, Tree.areShaped_concat.mpr ⟨hshaped, hinner⟩, haround⟩
  rw [List.map_append]
  exact hadmits

/-- The label of an open node may change, but for its kind. -/
theorem relabel {other : Label} (hfits : Fits ⟨label, trees⟩ outer)
    (hkind : other.element.kind = label.element.kind) : Fits ⟨other, trees⟩ outer := by
  have hsame : (⟨other, trees⟩ : Shelf).kind = (⟨label, trees⟩ : Shelf).kind := hkind
  exact ⟨hsame ▸ hfits.admits, hfits.areShaped, hsame ▸ hfits.areAround⟩

/-- The last child may become another one of its kind. -/
theorem setElement_last (hfits : Fits ⟨label, trees ++ [.node inner children]⟩ outer)
    {element : Element} (hkind : element.kind = inner.element.kind) :
    Fits ⟨label, trees ++ [.node { inner with element } children]⟩ outer := by
  obtain ⟨hshaped, hinner⟩ := Tree.areShaped_concat.mp hfits.areShaped
  refine ⟨?_, Tree.areShaped_concat.mpr ⟨hshaped, ?_⟩, hfits.areAround⟩
  · have hadmits := hfits.admits
    rw [List.map_append] at hadmits ⊢
    have hsame : Tree.kind (.node { inner with element } children) =
        Tree.kind (.node inner children) := hkind
    rw [List.map_singleton, hsame]
    exact hadmits
  · simpa only [Tree.IsShaped, hkind] using hinner

/-- What is open can be closed, node by node up to the root. -/
theorem exists_root {doc : Document} {id : NodeId} {path : List NodeId}
    (hfits : Fits ⟨label, trees⟩ outer) (htrees : label.element.kind = .textBlock → trees ≠ [])
    (hbuilt : doc.Built ⟨label, trees⟩ outer id path) :
    ∃ top children, doc.Built ⟨top, children⟩ [] Document.root [] ∧
      (Tree.node top children).IsShaped ∧ top.element.kind = .document := by
  induction outer generalizing label trees id path with
  | nil =>
      obtain ⟨hpath, hid⟩ := hbuilt.surrounds
      rw [hpath, hid] at hbuilt
      exact ⟨label, trees, hbuilt, ⟨hfits.admits, htrees, hfits.areShaped⟩, hfits.areAround⟩
  | cons shelf outer ih =>
      obtain ⟨parent, rest, rfl, -, rfl, -⟩ := hbuilt.surrounds
      exact ih (hfits.closed htrees) (fun _ => by simp) (Document.built_append_iff.mpr hbuilt)

end Fits

end Shelf

end MarkdownFormat
