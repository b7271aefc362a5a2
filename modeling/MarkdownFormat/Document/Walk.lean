/-
# Walking a document

A walk enters a node, walks its children in order and leaves the node. The
visitor may keep state and may fail; its answer on entering a node can leave out
the children, and its answer at any time can end the walk.
-/

import MarkdownFormat.Document.Basic

namespace MarkdownFormat

/-- Whether a node is met before or after its children. -/
inductive Phase
  | enter
  | exit
  deriving DecidableEq, Repr

/-- How a walk goes on after a visit. -/
inductive WalkStatus
  | proceed
  /-- Go on with the exit of the node that was entered. -/
  | skipChildren
  | stop
  deriving DecidableEq, Repr

/-- What is called at each visit of a walk. -/
abbrev Visitor (ε σ : Type) :=
  NodeId → Phase → EStateM ε σ WalkStatus

namespace Document

variable {ε σ : Type}

/-- Takes the nodes in order, until one of them stops. -/
def walkEach (walkOne : NodeId → EStateM ε σ WalkStatus) :
    List NodeId → EStateM ε σ WalkStatus
  | [] => pure .proceed
  | id :: rest => do
    match ← walkOne id with
    | .stop => return .stop
    | _ => walkEach walkOne rest

/-- Leaves a node; skipping children has no meaning any more. -/
def leave (visit : Visitor ε σ) (id : NodeId) : EStateM ε σ WalkStatus := do
  match ← visit id .exit with
  | .stop => return .stop
  | _ => return .proceed

/-- Walks the tree below a node down to the given depth. -/
def walkTo (doc : Document) (visit : Visitor ε σ) : Nat → NodeId → EStateM ε σ WalkStatus
  | 0, _ => pure .proceed
  | depth + 1, id => do
    match ← visit id .enter with
    | .stop => return .stop
    | .skipChildren => leave visit id
    | .proceed =>
      match ← walkEach (doc.walkTo visit depth) (doc.children id) with
      | .stop => return .stop
      | _ => leave visit id

/-- Walks a node and everything below it. No path is longer than the document is
large. -/
def walk (doc : Document) (visit : Visitor ε σ) (id : NodeId) : EStateM ε σ WalkStatus :=
  doc.walkTo visit doc.size id

end Document

end MarkdownFormat
