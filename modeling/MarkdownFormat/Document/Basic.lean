/-
# Documents

A document is an arena of nodes linked to their parents, siblings and children.
Node 0 is the root. The links are redundant on purpose, so that every step from a
node to a neighbour is one look-up; `children` is the view in which edits are
described, the list of a node's children from first to last.
-/

import MarkdownFormat.Kind

namespace MarkdownFormat

/-- The place of a node in its document. -/
abbrev NodeId := Nat

/-- One node: what it is, and where it stands. -/
structure Node where
  element : Element
  parent : Option NodeId := none
  firstChild : Option NodeId := none
  lastChild : Option NodeId := none
  previous : Option NodeId := none
  next : Option NodeId := none
  /-- Whether blank lines stand before the node. -/
  blankBefore : Bool := false
  /-- The content lines of a code block, an HTML block or a heading. -/
  lines : List Value := []
  /-- The source range of the node, as first and last offset. -/
  range : Option Segment := none
  deriving DecidableEq, Repr

/-- A tree of nodes, kept as an arena. -/
structure Document where
  nodes : Array Node
  deriving DecidableEq, Repr

namespace Document

/-- The document that holds only its root. -/
def empty : Document :=
  ⟨#[{ element := .document }]⟩

/-- The root of every document. -/
def root : NodeId := 0

variable (doc : Document)

/-- The number of nodes, detached ones included. -/
def size : Nat :=
  doc.nodes.size

/-- The node at a place; past the end, one without links. -/
def node (id : NodeId) : Node :=
  doc.nodes.getD id { element := .document }

/-- The kind of a node. -/
def kind (id : NodeId) : Kind :=
  (doc.node id).element.kind

/-- Whether the root has no children. -/
def isEmpty : Bool :=
  (doc.node root).firstChild.isNone

/-- Whether a node has children. -/
def hasChildren (id : NodeId) : Bool :=
  (doc.node id).firstChild.isSome

/-- At most `fuel` nodes along the sibling links, from the given one on. -/
def siblingsFrom : Nat → Option NodeId → List NodeId
  | 0, _ => []
  | _ + 1, none => []
  | fuel + 1, some id => id :: siblingsFrom fuel (doc.node id).next

/-- The children of a node, from first to last. -/
def children (id : NodeId) : List NodeId :=
  doc.siblingsFrom doc.size (doc.node id).firstChild

/-- The kinds of a node's children, in order. -/
def childKinds (id : NodeId) : List Kind :=
  (doc.children id).map doc.kind

end Document

end MarkdownFormat
