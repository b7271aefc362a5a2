/-
# Editing documents

New nodes are not linked to anything. A node is moved by taking it out of its
place and linking it in at the new one; a child may thus be appended or inserted
wherever it stood before. Attributes are set without touching any link.
-/

import MarkdownFormat.Document.Basic

namespace MarkdownFormat.Document

/-- Changes one node. -/
def modify (doc : Document) (id : NodeId) (change : Node → Node) : Document :=
  ⟨doc.nodes.modify id change⟩

/-- Changes one node, if there is one. -/
def modify? (doc : Document) (id : Option NodeId) (change : Node → Node) : Document :=
  match id with
  | some id => doc.modify id change
  | none => doc

/-- Adds a node without links. Its place is the old size of the document. -/
def addNode (doc : Document) (element : Element) : Document :=
  ⟨doc.nodes.push { element }⟩

/-- Says that `next` follows `previous` among the children of `parent`; where one
of them is missing, the other is the parent's last or first child. -/
def join (doc : Document) (parent previous next : Option NodeId) : Document :=
  let doc := match previous with
    | some previous => doc.modify previous ({ · with next })
    | none => doc.modify? parent ({ · with firstChild := next })
  match next with
  | some next => doc.modify next ({ · with previous })
  | none => doc.modify? parent ({ · with lastChild := previous })

/-- Takes a node out of its place and closes the gap. It keeps its children. -/
def detach (doc : Document) (id : NodeId) : Document :=
  let node := doc.node id
  (doc.join node.parent node.previous node.next).modify id
    ({ · with parent := none, previous := none, next := none })

/-- Moves `child` behind the last child of `parent`. -/
def appendChild (doc : Document) (parent child : NodeId) : Document :=
  let doc := doc.detach child
  let last := (doc.node parent).lastChild
  let doc := doc.modify child ({ · with parent := some parent, previous := last })
  let doc := match last with
    | some last => doc.modify last ({ · with next := some child })
    | none => doc.modify parent ({ · with firstChild := some child })
  doc.modify parent ({ · with lastChild := some child })

/-- Moves `child` right before `before`, which is a child of `parent`. -/
def insertBefore (doc : Document) (parent before child : NodeId) : Document :=
  let doc := doc.detach child
  let previous := (doc.node before).previous
  let doc := doc.modify child
    ({ · with parent := some parent, previous, next := some before })
  let doc := doc.modify before ({ · with previous := some child })
  match previous with
  | some previous => doc.modify previous ({ · with next := some child })
  | none => doc.modify parent ({ · with firstChild := some child })

/-- Makes a node another element, in its place. -/
def setElement (doc : Document) (id : NodeId) (element : Element) : Document :=
  doc.modify id ({ · with element })

/-- Replaces the value of a text; other elements stay as they are. -/
def setText (doc : Document) (id : NodeId) (value : Value) : Document :=
  match (doc.node id).element with
  | .text _ breaks => doc.setElement id (.text value breaks)
  | _ => doc

/-- Says whether blank lines stand before a node. -/
def setBlankBefore (doc : Document) (id : NodeId) (blankBefore : Bool) : Document :=
  doc.modify id ({ · with blankBefore })

/-- Sets the content lines of a node. -/
def setLines (doc : Document) (id : NodeId) (lines : List Value) : Document :=
  doc.modify id ({ · with lines })

/-- Sets the source range of a node. -/
def setRange (doc : Document) (id : NodeId) (range : Segment) : Document :=
  doc.modify id ({ · with range := some range })

end MarkdownFormat.Document
