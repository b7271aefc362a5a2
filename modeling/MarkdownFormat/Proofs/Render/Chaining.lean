/-
# Chains of chains

A chain calls its functions in order on entering a node and backwards on leaving it, and its
answer is that of the function called last, which is at the other end of the chain each time.
A chain may itself be part of a chain, as it is for each block that is registered. All of its
functions are then called where it stands, in the order that they would have without it, and
the answer is the same. Only an empty chain is to be told from none, as it has an answer.
-/

import MarkdownFormat.Render.Option

namespace MarkdownFormat

/-- Things in the order in which they are visited. -/
def Phase.inOrder {α : Type} (things : List α) : Phase → List α
  | .enter => things
  | .exit => things.reverse

variable {scene : Scene} {id : NodeId} {phase : Phase}

/-- Functions in two lists are called one list after the other. -/
theorem runAll_append (front back : List RenderFn) (status : WalkStatus) :
    runAll scene id phase status (front ++ back) =
      runAll scene id phase status front >>= fun status => runAll scene id phase status back := by
  induction front generalizing status with
  | nil => simp only [List.nil_append, runAll, pure_bind]
  | cons render rest ih => simp only [List.cons_append, runAll, ih, bind_assoc]

/-- An answer that is there beforehand does not matter if anything is called. -/
theorem runAll_of_ne_nil {renderers : List RenderFn} (hcalls : renderers ≠ [])
    (status other : WalkStatus) :
    runAll scene id phase status renderers = runAll scene id phase other renderers := by
  cases renderers with
  | nil => exact absurd rfl hcalls
  | cons render rest => rfl

/-- A chain calls its functions in the order of the phase. -/
theorem chain_eq_runAll (renderers : List RenderFn) :
    chain renderers scene id phase =
      runAll scene id phase .proceed (phase.inOrder renderers) := by
  cases phase <;> rfl

/-- Where chains are called one after the other, so are all functions in them. -/
theorem runAll_map_chain {lists : List (List RenderFn)} (hcalls : ∀ list ∈ lists, list ≠ [])
    (status : WalkStatus) :
    runAll scene id phase status (lists.map chain) =
      runAll scene id phase status (lists.flatMap fun list => phase.inOrder list) := by
  induction lists generalizing status with
  | nil => rfl
  | cons list rest ih =>
      obtain ⟨hlist, hrest⟩ := List.forall_mem_cons.mp hcalls
      have hinOrder : phase.inOrder list ≠ [] := by
        cases phase <;> simpa [Phase.inOrder] using hlist
      rw [List.map_cons, runAll, chain_eq_runAll, List.flatMap_cons, runAll_append,
        runAll_of_ne_nil hinOrder status .proceed]
      exact bind_congr fun status => ih hrest status

/-- The order of lists put together is that of the lists and inside of each. -/
theorem Phase.inOrder_flatten {α : Type} (lists : List (List α)) :
    phase.inOrder lists.flatten = (phase.inOrder lists).flatMap fun list => phase.inOrder list := by
  cases phase with
  | enter => simp [Phase.inOrder, List.flatMap_id']
  | exit => simp [Phase.inOrder, List.reverse_flatten, List.flatMap]

/-- The order does not depend on what the things are. -/
theorem Phase.inOrder_map {α β : Type} (f : α → β) (things : List α) :
    phase.inOrder (things.map f) = (phase.inOrder things).map f := by
  cases phase with
  | enter => rfl
  | exit => exact List.map_reverse.symm

/-- The order leaves nothing out. -/
theorem Phase.mem_inOrder {α : Type} {things : List α} {thing : α} :
    thing ∈ phase.inOrder things ↔ thing ∈ things := by
  cases phase with
  | enter => rfl
  | exit => exact List.mem_reverse

/-- A chain of chains does what the chain of all their functions does. Whatever these do to the
state, they do it in the same order, they fail at the same place, and the answer is the same, on
entering any node and on leaving it. -/
theorem chain_map_chain (lists : List (List RenderFn)) (hcalls : ∀ list ∈ lists, list ≠ [])
    (scene : Scene) (id : NodeId) (phase : Phase) (state : RenderState) :
    chain (lists.map chain) scene id phase state = chain lists.flatten scene id phase state := by
  have hlists : ∀ list ∈ phase.inOrder lists, list ≠ [] :=
    fun list hlist => hcalls list (Phase.mem_inOrder.mp hlist)
  rw [chain_eq_runAll, chain_eq_runAll, Phase.inOrder_map, Phase.inOrder_flatten,
    runAll_map_chain hlists]

/-- Writes a character on each visit, with the same answer. -/
def signing (sign : Char) (status : WalkStatus) : RenderFn := fun _ _ _ => do
  RenderM.putText [sign]
  return status

/-- On leaving a node, the first function of the first chain is called last. -/
theorem chain_map_chain_signing :
    let lists := [[signing 'a' .stop, signing 'b' .proceed], [signing 'c' .skipChildren]]
    let scene : Scene := ⟨[], .empty, {}⟩
    let state : RenderState := { writer := .onto .unlimited }
    (∀ list ∈ lists, list ≠ []) ∧
    chain (lists.map chain) scene 0 .exit state = chain lists.flatten scene 0 .exit state ∧
    ∃ after, chain (lists.map chain) scene 0 .exit state = .ok .stop after ∧
      after.writer.buffer = Utf8.encode ['c', 'b', 'a'] := by
  intro lists scene state
  have hcalls : ∀ list ∈ lists, list ≠ [] := by simp [lists]
  exact ⟨hcalls, chain_map_chain lists hcalls scene 0 .exit state, _, rfl, by decide +kernel⟩

end MarkdownFormat
