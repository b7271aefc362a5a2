/-
# Rendering prints the tree

Into a sink that accepts everything, the renderer of the core kinds writes the lines
that the printer gives for the tree of the document, one write for each of them, with
the blanks at their ends cut.
-/

import MarkdownFormat.Proofs.Render.BlockPrinting

namespace MarkdownFormat.Renderer

/-- A walk that emits lines makes a rendering that adds them to the sink. -/
theorem renderNode_of_emits {renderer : Renderer} {sink : Sink} {source : Bytes}
    {document : Document} {id : NodeId} {after : RenderState} {script : List WriterCall}
    {lines : List Bytes} (hsink : sink.limit = none)
    (hwalk : Checked (document.walk (renderer.visit ⟨source, document, renderer.config⟩) id)
      { writer := LineWriter.onto sink } script after)
    (hemits : Emits (script ++ [.flushLine]) lines) :
    ∃ last, renderer.renderNode sink source document id = (none, last) ∧
      last.writer.sink.received.toList = sink.received.toList ++ lines.map finished := by
  have hfree := LineWriter.onto_free hsink
  obtain ⟨hok, -⟩ := renderNode_of_checked hwalk (hemits _ hfree rfl)
  refine ⟨_, hok (hfree.deliver lines []).sound, ?_⟩
  rw [LineWriter.deliver_unlimited hsink]
  simp [LineWriter.onto]

/-- Rendering a document that holds a well-nested block adds the lines of the block to a sink
without a limit. -/
theorem render_block (config : Config) (source : Bytes) (sink : Sink) {document : Document}
    {tree : Tree} (hsink : sink.limit = none) (hholds : document.Holds tree Document.root)
    (hmarkdown : tree.isMarkdown) (hblock : tree.kind.isBlock) (hroot : tree.kind ≠ .listItem) :
    ∃ last, (standard config).render sink source document = (none, last) ∧
      last.writer.sink.received.toList = sink.received.toList ++
        (Printer.print config source ((document.node Document.root).previous.map document.kind)
          tree).map finished := by
  obtain ⟨script, hwalk, hemits⟩ := ((walk_block config ⟨source, document, config⟩).1 tree
    Document.root document.size { writer := LineWriter.onto sink } hholds hmarkdown hblock
    hholds.height_le_size rfl).1 hroot
  rw [Printer.print, hblock]
  exact renderNode_of_emits hsink hwalk hemits.flushLine

/-- Rendering a document that holds a well-nested tree succeeds and adds the printed
lines of the tree to the sink. -/
theorem render_eq_print (config : Config) (source : Bytes) (document : Document) (sink : Sink)
    (tree : Tree) (hsink : sink.limit = none) (hholds : document.Holds tree Document.root)
    (hmarkdown : tree.isMarkdown) (hroot : tree.kind ≠ .listItem) :
    ∃ last, (standard config).render sink source document = (none, last) ∧
      last.writer.sink.received.toList = sink.received.toList ++
        (Printer.print config source ((document.node Document.root).previous.map document.kind)
          tree).map finished := by
  let scene : Scene := ⟨source, document, config⟩
  have hheight := hholds.height_le_size
  cases hblock : tree.kind.isBlock with
  | true =>
      obtain ⟨script, hwalk, hemits⟩ := ((walk_block config scene).1 tree Document.root
        document.size { writer := LineWriter.onto sink } hholds hmarkdown hblock hheight rfl).1
        hroot
      rw [Printer.print, hblock]
      exact renderNode_of_emits hsink hwalk hemits.flushLine
  | false =>
      obtain ⟨script, hwalk, hfeeds⟩ := (@walk_inline scene config).1 tree Document.root
        document.size { writer := LineWriter.onto sink } hholds hmarkdown hblock hheight
      rw [Printer.print, hblock]
      exact renderNode_of_emits hsink hwalk hfeeds.flushLine

/-- Two lists that begin on one line, in a quote. -/
def nestedLists : Tree :=
  .node { element := .document } [.node { element := .blockquote } [
    .node { element := .list 0x2E true 9 } [
      .node { element := .listItem } [.node { element := .list 0x2D false 1 } [
        .node { element := .listItem } [.node { element := .textBlock } [
          .node { element := .text (.owned "a") ⟨true, false⟩ } [],
          .node { element := .plainText (.owned "b") } []]]]],
      .node { element := .listItem } []]]]

/-- A document that holds the nested lists. -/
def nestedListsDocument : Document :=
  ⟨#[{ element := .document, firstChild := some 1, lastChild := some 1 },
    { element := .blockquote, parent := some 0, firstChild := some 2, lastChild := some 2 },
    { element := .list 0x2E true 9, parent := some 1, firstChild := some 3,
      lastChild := some 9 },
    { element := .listItem, parent := some 2, firstChild := some 4, lastChild := some 4,
      next := some 9 },
    { element := .list 0x2D false 1, parent := some 3, firstChild := some 5,
      lastChild := some 5 },
    { element := .listItem, parent := some 4, firstChild := some 6, lastChild := some 6 },
    { element := .textBlock, parent := some 5, firstChild := some 7, lastChild := some 8 },
    { element := .text (.owned "a") ⟨true, false⟩, parent := some 6, next := some 8 },
    { element := .plainText (.owned "b"), parent := some 6, previous := some 7 },
    { element := .listItem, parent := some 2, previous := some 3 }]⟩

/-- The markers of both lists stand before the first line, and space before the second. -/
theorem render_eq_print_nestedLists :
    Sink.unlimited.limit = none ∧ nestedListsDocument.Holds nestedLists Document.root ∧
      nestedLists.isMarkdown ∧ nestedLists.kind ≠ .listItem ∧
      ∃ last, (standard {}).render .unlimited [] nestedListsDocument = (none, last) ∧
        last.writer.sink.received.toList = [Utf8.ofString "> 9. - a\n",
          Utf8.ofString ">      b\n", Utf8.ofString "> 10.\n"] := by
  have hholds : nestedListsDocument.Holds nestedLists Document.root := by
    have hinner : nestedListsDocument.Holds
        (.node { element := .list 0x2D false 1 } [
          .node { element := .listItem } [.node { element := .textBlock } [
            .node { element := .text (.owned "a") ⟨true, false⟩ } [],
            .node { element := .plainText (.owned "b") } []]]]) 4 :=
      ⟨by decide, rfl, [5], ⟨rfl, rfl, rfl, rfl, rfl⟩, 5, [], rfl,
        ⟨by decide, rfl, [6], ⟨rfl, rfl, rfl, rfl, rfl⟩, 6, [], rfl,
          ⟨by decide, rfl, [7, 8], ⟨rfl, rfl, rfl, rfl, rfl, rfl, rfl, rfl⟩,
            7, [8], rfl, ⟨by decide, rfl, [], ⟨rfl, rfl⟩, rfl⟩,
            8, [], rfl, ⟨by decide, rfl, [], ⟨rfl, rfl⟩, rfl⟩, rfl⟩, rfl⟩, rfl⟩
    exact ⟨by decide, rfl, [1], ⟨rfl, rfl, rfl, rfl, rfl⟩, 1, [], rfl,
      ⟨by decide, rfl, [2], ⟨rfl, rfl, rfl, rfl, rfl⟩, 2, [], rfl,
        ⟨by decide, rfl, [3, 9], ⟨rfl, rfl, rfl, rfl, rfl, rfl, rfl, rfl⟩,
          3, [9], rfl, ⟨by decide, rfl, [4], ⟨rfl, rfl, rfl, rfl, rfl⟩,
            4, [], rfl, hinner, rfl⟩,
          9, [], rfl, ⟨by decide, rfl, [], ⟨rfl, rfl⟩, rfl⟩, rfl⟩, rfl⟩, rfl⟩
  have hmarkdown : nestedLists.isMarkdown := by decide +kernel
  have hroot : nestedLists.kind ≠ .listItem := by decide
  obtain ⟨last, hrender, hlines⟩ :=
    render_eq_print {} [] nestedListsDocument .unlimited nestedLists rfl hholds hmarkdown hroot
  refine ⟨rfl, hholds, hmarkdown, hroot, last, hrender, hlines.trans ?_⟩
  decide +kernel

end MarkdownFormat.Renderer
