/-
# Rendering block by block

Behind earlier lines and warnings a rendering gives the same lines and warnings, and a block
leaves nothing else behind, so that the next block starts as the first did. A document is
therefore rendered as its blocks are one by one.
-/

import MarkdownFormat.Proofs.Render.Completion

namespace MarkdownFormat

namespace Renderer

/-- It does not matter how earlier output is put together. -/
theorem after_after_fresh (lines later : Array Bytes) (warned warnedLater : Array Warning) :
    (fresh.after later warnedLater).after lines warned =
      fresh.after (lines ++ later) (warned ++ warnedLater) := by
  simp [RenderState.after, fresh, LineWriter.after_after_onto]

/-- Walks that leave only lines and warnings, whatever there is before, leave these one after
the other. -/
theorem exists_walkEach_fresh {walkOne : NodeId → EStateM RenderFault RenderState WalkStatus}
    (hcommutes : ∀ earlier warned id, Commutes (fun state => state.after earlier warned) (walkOne id))
    {lines : NodeId → List Bytes} {ids : List NodeId}
    (hwalk : ∀ id ∈ ids, ∃ warned,
      walkOne id fresh = .ok .proceed (fresh.after (lines id).toArray warned)) :
    ∃ warned, Document.walkEach walkOne ids fresh =
      .ok .proceed (fresh.after (ids.flatMap lines).toArray warned) := by
  induction ids with
  | nil => exact ⟨#[], rfl⟩
  | cons id ids ih =>
      obtain ⟨warned, hfirst⟩ := hwalk id List.mem_cons_self
      obtain ⟨warnedLater, hrest⟩ := ih fun other hother => hwalk other (List.mem_cons_of_mem _ hother)
      refine ⟨warned ++ warnedLater, ?_⟩
      have hwalks : Document.walkEach walkOne (id :: ids) fresh =
          Document.walkEach walkOne ids (fresh.after (lines id).toArray warned) := by
        show EStateM.bind (walkOne id) _ fresh = _
        rw [EStateM.bind, hfirst]
      have hlater : Commutes (fun state => state.after (lines id).toArray warned)
          (Document.walkEach walkOne ids) :=
        Document.walkEach_of_closed .pure .bind (hcommutes _ _) ids
      rw [hwalks, hlater fresh, hrest]
      simp [changeState, after_after_fresh]

variable {config : Config} {strikethrough : Bool}

/-- Rendering a node ends with the lines of its walk, if that leaves nothing else. -/
theorem renderNode_of_walk {renderer : Renderer} {source : Bytes} {document : Document}
    {id : NodeId} {lines : Array Bytes} {warned : Array Warning}
    (hwalk : document.walk (renderer.visit ⟨source, document, renderer.config⟩) id fresh =
      .ok .proceed (fresh.after lines warned)) :
    renderer.renderNode .unlimited source document id = (none, fresh.after lines warned) := by
  have hwalk : document.walk (renderer.visit ⟨source, document, renderer.config⟩) id
      { writer := .onto .unlimited } = .ok .proceed (fresh.after lines warned) := hwalk
  rw [renderNode_eq, hwalk]
  have hflush : (fresh.after lines warned).writer.flushLine = (fresh.after lines warned).writer := rfl
  dsimp only
  rw [hflush, checkSink_of_sound rfl]

/-- What was rendered earlier is all that the sink holds. -/
theorem content_after_fresh (lines : Array Bytes) (warned : Array Warning) :
    (fresh.after lines warned).writer.sink.content = lines.toList.flatten := by
  simp [RenderState.after, fresh, LineWriter.after, LineWriter.onto, Sink.after, Sink.unlimited,
    Sink.content]

/-- The root of a document adds nothing to what its children are rendered as. -/
theorem walk_root {scene : Scene} (hkind : scene.document.kind Document.root = .document)
    (hfirst : (scene.document.node Document.root).previous = none) {depth : Nat}
    {lines : Array Bytes} {warned : Array Warning}
    (hchildren : Document.walkEach
      (scene.document.walkTo ((forMarkdown config strikethrough).visit scene) depth)
      (scene.document.children Document.root) fresh = .ok .proceed (fresh.after lines warned)) :
    scene.document.walkTo ((forMarkdown config strikethrough).visit scene) (depth + 1)
      Document.root fresh = .ok .proceed (fresh.after lines warned) := by
  have hfunction : (forMarkdown config strikethrough).functions .document =
      some Render.separator := by
    rw [functions_forMarkdown, if_neg (fun h => by cases h.2)]
    rfl
  have hdispatch : ∀ phase, (forMarkdown config strikethrough).dispatch scene Document.root phase =
      Render.separator scene Document.root phase := by
    intro phase
    simp only [dispatch, hkind, hfunction]
  have henter : (forMarkdown config strikethrough).visit scene Document.root .enter fresh =
      .ok .proceed fresh := by
    refine visit_of_dispatch ?_ rfl
    rw [hdispatch, Render.separator, Scene.node, hfirst]
    rfl
  have hexit : (forMarkdown config strikethrough).visit scene Document.root .exit
      (fresh.after lines warned) = .ok .proceed (fresh.after lines warned) := by
    refine visit_of_dispatch ?_ rfl
    rw [hdispatch]
    rfl
  exact Document.walkTo_of_visits henter hchildren hexit

/-- The lines that a node is rendered as. -/
def renderedLines (renderer : Renderer) (source : Bytes) (document : Document) (id : NodeId) :
    List Bytes :=
  (renderer.renderNode .unlimited source document id).2.writer.sink.received.toList

/-- A child of the root that is a block is rendered on its own as it is below the root. -/
theorem exists_walkTo_child {source : Bytes} {document : Document}
    (hwellFormed : document.WellFormed) {child : NodeId}
    (hchild : child ∈ document.children Document.root) (hblock : (document.kind child).isBlock)
    (hrenderer : (forMarkdown config strikethrough).hasRenderer (document.kind child))
    {depth : Nat} (hsize : document.size = depth + 1) :
    let renderer := forMarkdown config strikethrough
    (renderer.renderNode .unlimited source document child).1 = none ∧
      ∃ warned, document.walkTo (renderer.visit ⟨source, document, renderer.config⟩) depth child
        fresh = .ok .proceed (fresh.after (renderer.renderedLines source document child).toArray warned) := by
  intro renderer
  have hparent : document.IsParent Document.root child := (hwellFormed.mem_children _ _).mp hchild
  have hne : child ≠ Document.root := by
    rintro rfl
    exact hwellFormed.acyclic _ (.single hparent)
  -- No path leads through more nodes than there are, so the last level is never needed.
  have hdepth : document.walkTo (renderer.visit ⟨source, document, renderer.config⟩) (depth + 1)
      child = document.walkTo (renderer.visit ⟨source, document, renderer.config⟩) depth child := by
    have hroot : Document.root < document.size := by
      rw [hsize]
      exact Nat.succ_pos depth
    have hnodup : [child, Document.root].Nodup := by simpa using hne
    refine hwellFormed.walkTo_succ hnodup ?_ ?_ ?_
    · simpa using ⟨Document.lt_size_of_isParent hparent, hroot⟩
    · simpa using ⟨.refl, .single hparent⟩
    · simp [hsize]
  obtain ⟨lines, warned, hwalk⟩ := @exists_walkTo_fresh config strikethrough
    ⟨source, document, renderer.config⟩ child hblock hrenderer depth
  have hrender : renderer.renderNode .unlimited source document child =
      (none, fresh.after lines warned) :=
    renderNode_of_walk (by rw [Document.walk, hsize]; exact hwalk)
  have hlines : renderer.renderedLines source document child = lines.toList := by
    rw [renderedLines, hrender]
    simp [RenderState.after, fresh, LineWriter.after, LineWriter.onto, Sink.after, Sink.unlimited]
  refine ⟨by rw [hrender], warned, ?_⟩
  rw [← hdepth, hlines, Array.toArray_toList]
  exact hwalk

/-- A document whose blocks all have a render function is rendered as the blocks are rendered
one by one. Its root is what it was made as, a node of kind document with nothing beside it: a
quote put in its place would mark the lines of the blocks below. -/
theorem render_eq_flatMap_renderNode (config : Config) (strikethrough : Bool) (source : Bytes)
    {document : Document} (hwellFormed : document.WellFormed)
    (hkind : document.kind Document.root = .document)
    (hfirst : (document.node Document.root).previous = none)
    (hblocks : ∀ child ∈ document.children Document.root, (document.kind child).isBlock ∧
      (forMarkdown config strikethrough).hasRenderer (document.kind child)) :
    let renderer := forMarkdown config strikethrough
    let outcome := renderer.render .unlimited source document
    outcome.1 = none ∧
    (∀ child ∈ document.children Document.root,
      (renderer.renderNode .unlimited source document child).1 = none) ∧
    outcome.2.writer.sink.content = (document.children Document.root).flatMap fun child =>
      (renderer.renderNode .unlimited source document child).2.writer.sink.content := by
  intro renderer outcome
  let scene : Scene := ⟨source, document, renderer.config⟩
  have hwalks : ∃ warned, document.walk (renderer.visit scene) Document.root fresh =
      .ok .proceed (fresh.after ((document.children Document.root).flatMap
        (renderer.renderedLines source document)).toArray warned) := by
    rw [Document.walk]
    cases hsize : document.size with
    | zero =>
        have hnone : document.children Document.root = [] := by
          rw [Document.children, hsize, Document.siblingsFrom]
        rw [hnone]
        exact ⟨#[], rfl⟩
    | succ depth =>
        obtain ⟨warned, hchildren⟩ := exists_walkEach_fresh
          (fun earlier warned => commutes_walkTo earlier warned config strikethrough scene depth)
          (fun child hchild => (exists_walkTo_child hwellFormed hchild (hblocks child hchild).1
            (hblocks child hchild).2 hsize).2)
        exact ⟨warned, walk_root hkind hfirst hchildren⟩
  obtain ⟨warned, hwalk⟩ := hwalks
  have houtcome : outcome = _ := renderNode_of_walk hwalk
  refine ⟨by rw [houtcome], ?_, ?_⟩
  · intro child hchild
    have hparent : document.IsParent Document.root child :=
      (hwellFormed.mem_children _ _).mp hchild
    obtain ⟨depth, hsize⟩ :=
      Nat.exists_eq_add_one.mpr (Nat.zero_lt_of_lt (Document.lt_size_of_isParent hparent))
    exact (exists_walkTo_child hwellFormed hchild (hblocks child hchild).1 (hblocks child hchild).2
      hsize).1
  · rw [houtcome, content_after_fresh, List.toList_toArray, ← List.flatMap_id, List.flatMap_assoc]
    simp only [List.flatMap_id]
    rfl

/-- A quoted break, and after an empty line a list with code in its item. -/
def quoteAndList : List Document.Edit :=
  [.addNode .blockquote, .addNode .thematicBreak, .addNode (.list 0x2B false 1),
    .addNode .listItem, .addNode .codeBlock, .appendChild 0 1, .appendChild 1 2, .appendChild 0 3,
    .appendChild 3 4, .appendChild 4 5, .setBlankBefore 3 true,
    .setLines 5 [.owned "a", .owned "b"]]

/-- The document of a quoted break and a list. -/
def quoteAndListDocument : Document :=
  quoteAndList.foldl Document.Edit.apply .empty

/-- The links of the document agree. -/
theorem wellFormed_quoteAndListDocument : quoteAndListDocument.WellFormed := by
  have hlegal : Document.Edit.AllLegal .empty quoteAndList := by
    refine ⟨trivial, trivial, trivial, trivial, trivial, ⟨by decide, by decide, ?first⟩,
      ⟨by decide, by decide, ?second⟩, ⟨by decide, by decide, ?third⟩,
      ⟨by decide, by decide, ?fourth⟩, ⟨by decide, by decide, ?fifth⟩, by show _ < _; decide,
      by show _ < _; decide, trivial⟩
    case first | third => exact Document.not_isAbove_of_top rfl (by decide)
    case second | fourth =>
      exact Document.not_isAbove_of_parent rfl (by decide)
        (Document.not_isAbove_of_top rfl (by decide))
    case fifth =>
      exact Document.not_isAbove_of_parent rfl (by decide)
        (Document.not_isAbove_of_parent rfl (by decide)
          (Document.not_isAbove_of_top rfl (by decide)))
  exact (Document.Edit.isForest_foldl .empty hlegal).wellFormed

/-- The list is rendered behind the quote as it is alone, its empty line included. -/
theorem render_eq_flatMap_renderNode_quoteAndList :
    quoteAndListDocument.WellFormed ∧ quoteAndListDocument.children Document.root = [1, 3] ∧
      ((forMarkdown {} false).render .unlimited [] quoteAndListDocument).2.writer.sink.content =
        Utf8.ofString "> ---\n" ++ Utf8.ofString "\n+     a\n      b\n" := by
  have hchildren : quoteAndListDocument.children Document.root = [1, 3] := by
    decide +kernel
  have hblocks : ∀ child ∈ quoteAndListDocument.children Document.root,
      (quoteAndListDocument.kind child).isBlock ∧
        (forMarkdown {} false).hasRenderer (quoteAndListDocument.kind child) := by
    rw [hchildren]
    decide +kernel
  obtain ⟨-, -, hcontent⟩ := render_eq_flatMap_renderNode {} false []
    wellFormed_quoteAndListDocument (by decide +kernel) (by decide +kernel) hblocks
  refine ⟨wellFormed_quoteAndListDocument, hchildren, ?_⟩
  rw [hcontent, hchildren]
  decide +kernel

end Renderer

end MarkdownFormat
