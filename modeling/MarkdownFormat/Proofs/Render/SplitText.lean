/-
# Splitting a text

A text that stands in the source can be split in two: the first part comes as a new text
right before the node, which keeps the second part and the line break. Nothing that is
rendered changes by that. A transform that makes a link of a part of a text relies on it.
-/

import MarkdownFormat.Proofs.Render.Alike
import MarkdownFormat.Proofs.Text.Segment

namespace MarkdownFormat

open WriterCall

namespace Document

variable {doc : Document} {parent id : NodeId} {segment : Segment} {breaks : LineBreaks}
  {offset : Nat}

/-- Splits the text at a node, a child of `parent`, at an offset into the source. -/
def splitText (doc : Document) (parent id : NodeId) (segment : Segment) (offset : Nat) :
    Document :=
  (doc.insertNew parent id (.plainText (.source (segment.withStop offset)))).setText id
    (.source (segment.withStart offset))

namespace WellFormed

variable (hwellFormed : doc.WellFormed) (hparent : doc.IsParent parent id)
  (helement : (doc.node id).element = .text (.source segment) breaks)
include hwellFormed hparent helement

/-- A text is split by putting a new one before it and making it shorter. -/
theorem splitText_eq : doc.splitText parent id segment offset =
    (doc.insertNew parent id (.plainText (.source (segment.withStop offset)))).setElement id
      (.text (.source (segment.withStart offset)) breaks) := by
  have hne : id ≠ doc.size := Nat.ne_of_lt (lt_size_of_parent hparent)
  have hinserted : ((doc.insertNew parent id
      (.plainText (.source (segment.withStop offset)))).node id).element =
        .text (.source segment) breaks := by
    rw [hwellFormed.element_insertNew hparent, if_neg hne, helement]
  rw [splitText, setText, hinserted]

/-- In place of the text stand the new one and itself. -/
theorem isReplaced_splitText :
    doc.IsReplaced (doc.splitText parent id segment offset) id [doc.size, id] := by
  rw [hwellFormed.splitText_eq hparent helement]
  exact (hwellFormed.isReplaced_insertNew hparent _).setElement _

/-- The node has the second part and its line break. -/
theorem element_splitText : ((doc.splitText parent id segment offset).node id).element =
    .text (.source (segment.withStart offset)) breaks := by
  have hid : id < (doc.insertNew parent id
      (.plainText (.source (segment.withStop offset)))).size := by
    rw [size_insertNew]
    exact Nat.lt_succ_of_lt (lt_size_of_parent hparent)
  rw [hwellFormed.splitText_eq hparent helement, setElement, node_modify_self hid]

/-- The new node has the first part. -/
theorem element_splitText_size :
    ((doc.splitText parent id segment offset).node doc.size).element =
      .plainText (.source (segment.withStop offset)) := by
  have hne : doc.size ≠ id := (Nat.ne_of_lt (lt_size_of_parent hparent)).symm
  rw [hwellFormed.splitText_eq hparent helement, setElement, node_modify_of_ne hne,
    hwellFormed.element_insertNew hparent, if_pos rfl]

/-- No other parent gets the new one. -/
theorem children_splitText {k : NodeId} (hk : k ≠ parent) :
    (doc.splitText parent id segment offset).children k = doc.children k := by
  rw [hwellFormed.splitText_eq hparent helement,
    (hwellFormed.isForest_insertNew hparent _).wellFormed.children_setElement,
    hwellFormed.children_insertNew hparent _ hk]

end WellFormed

/-- The visits in the place of a visit: the new node is visited right before the text is
entered. -/
def visitsOfParts (added id : NodeId) (call : NodeId × Phase) : List (NodeId × Phase) :=
  if call = (id, .enter) then [(added, .enter), (added, .exit), (id, .enter)] else [call]

/-- The new text is visited before the shortened one is entered. -/
theorem visitsOfParts_enter (added id : NodeId) :
    visitsOfParts added id (id, .enter) = [(added, .enter), (added, .exit), (id, .enter)] :=
  if_pos rfl

/-- The shortened text is left where the whole one was. -/
theorem visitsOfParts_exit (added id : NodeId) :
    visitsOfParts added id (id, .exit) = [(id, .exit)] :=
  if_neg (by simp)

/-- The visits to other nodes stay. -/
theorem visitsOfParts_of_ne (added : NodeId) {k : NodeId} (hk : k ≠ id) (phase : Phase) :
    visitsOfParts added id (k, phase) = [(k, phase)] :=
  if_neg fun heq => hk (Prod.mk.inj heq).1

/-- So the visits of a walk are the same but for those to the text. -/
theorem WellFormed.calls_splitText (hwellFormed : doc.WellFormed)
    (hparent : doc.IsParent parent id)
    (helement : (doc.node id).element = .text (.source segment) breaks) {k : NodeId}
    (hk : k ≠ id) : (doc.splitText parent id segment offset).calls k =
      (doc.calls k).flatMap (visitsOfParts doc.size id) := by
  have hreplaced : doc.IsReplaced (doc.splitText parent id segment offset) id [doc.size, id] :=
    hwellFormed.isReplaced_splitText hparent helement
  have hid := lt_size_of_parent hparent
  have hsize : 0 < doc.size := Nat.zero_lt_of_lt hid
  have hcalls := hreplaced.wellFormed_changed.calls_eq (Nat.lt_of_lt_of_le hsize hreplaced.size_le)
  have hne : id ≠ parent := hwellFormed.ne_of_isParent hparent
  have hnew : doc.size ≠ parent := by
    rintro rfl
    exact Nat.lt_irrefl _ (hwellFormed.rows.mem_of_parent hparent).1
  refine hreplaced.calls_eq (fun other => visitsOfParts_of_ne doc.size) (fun hbelow => ?_) hk
  · have hadded : (doc.splitText parent id segment offset).calls doc.size =
        [(doc.size, .enter), (doc.size, .exit)] := by
      rw [hcalls, hwellFormed.children_splitText hparent helement hnew,
        children_of_size_le (Nat.le_refl _)]
      rfl
    rw [List.flatMap_cons, List.flatMap_singleton, hadded, hcalls,
      hwellFormed.children_splitText hparent helement hne, List.flatMap_congr hbelow,
      hwellFormed.calls_eq hsize id, List.flatMap_cons, List.flatMap_append, List.flatMap_assoc,
      List.flatMap_singleton, visitsOfParts_enter, visitsOfParts_exit]
    rfl

end Document

/-- Writes the line break behind a text. -/
def LineWriter.putBreak (writer : LineWriter) (breaks : LineBreaks) : LineWriter :=
  if breaks.hard then (writer.put (Utf8.encode ['\\'])).endLine
  else if breaks.soft then writer.endLine
  else writer

/-- The script of a line break puts the break. -/
theorem LineWriter.run?_breakScript (writer : LineWriter) (breaks : LineBreaks) :
    writer.run? (breakScript breaks) = some (writer.putBreak breaks) := by
  rw [breakScript, putBreak]
  split
  · rfl
  · split <;> rfl

/-- A free writer stays free. -/
theorem LineWriter.Free.putBreak {writer : LineWriter} (hfree : writer.Free) (breaks : LineBreaks) :
    (writer.putBreak breaks).Free := by
  rw [LineWriter.putBreak]
  split
  · exact (hfree.put _).put _
  · split
    · exact hfree.put _
    · exact hfree

namespace Renderer

section Text

variable {config : Config} {strikethrough : Bool} {scene : Scene} {id : NodeId}
  {value : Value} {breaks : LineBreaks}
  (helement : (scene.node id).element = .text value breaks)
include helement

/-- A text is rendered as such with every configuration. -/
theorem dispatch_text (phase : Phase) :
    (forMarkdown config strikethrough).dispatch scene id phase = Render.text scene id phase := by
  have hkind : scene.document.kind id = .text := congrArg Element.kind helement
  have hfunction : (forMarkdown config strikethrough).functions (scene.document.kind id) =
      some Render.text := by
    rw [hkind, functions_forMarkdown, if_neg (fun h => by cases h.2)]
    rfl
  simp only [dispatch, hfunction]

/-- Entering a text writes it with the line break behind it. -/
theorem visit_text_enter (before : RenderState) (hfree : before.writer.Free) :
    (forMarkdown config strikethrough).visit scene id .enter before = .ok .proceed
      { before with writer := (before.writer.put
          (textBytes before.codeSpan (value.bytes scene.source))).putBreak breaks } := by
  have hperforms : Performs ((forMarkdown config strikethrough).dispatch scene id .enter) before
      (.write (textBytes before.codeSpan (value.bytes scene.source)) :: breakScript breaks)
      .proceed before := by
    rw [dispatch_text helement]
    exact performs_text_enter helement
  exact visit_of_performs hperforms (LineWriter.run?_breakScript _ breaks)
    ((hfree.put _).putBreak breaks)

/-- Leaving a text does nothing. -/
theorem visit_text_exit (before : RenderState) (hfree : before.writer.Free) :
    (forMarkdown config strikethrough).visit scene id .exit before = .ok .proceed before := by
  have hperforms : Performs ((forMarkdown config strikethrough).dispatch scene id .exit) before []
      .proceed before := by
    rw [dispatch_text helement]
    exact performs_text_exit
  exact visit_of_performs hperforms rfl hfree

end Text

variable {config : Config} {strikethrough : Bool} {id : NodeId} {breaks : LineBreaks}

/-- In a code span, each byte is written for itself. -/
theorem textBytes_append (codeSpan : Option CodeSpanStyle) (first second : Bytes) :
    textBytes codeSpan (first ++ second) =
      textBytes codeSpan first ++ textBytes codeSpan second := by
  rw [textBytes, textBytes, textBytes]
  split
  · exact List.map_append
  · rfl

section Split

variable {source : Bytes} {doc : Document} {parent : NodeId} {segment : Segment} {offset : Nat}
  (hwellFormed : doc.WellFormed) (hparent : doc.IsParent parent id)
  (helement : (doc.node id).element = .text (.source segment) breaks)
  (hstart : segment.start ≤ offset) (hstop : offset ≤ segment.stop)
include hwellFormed hparent helement hstart hstop

/-- The other nodes are rendered as before. In a code span the two parts make up the content
that the text did. -/
theorem alike_splitText {k : NodeId} (hid : k ≠ id) (hk : k < doc.size) :
    Scene.Alike ⟨source, doc, config⟩ ⟨source, doc.splitText parent id segment offset, config⟩
      k := by
  have hreplaced : doc.IsReplaced (doc.splitText parent id segment offset) id [doc.size, id] :=
    hwellFormed.isReplaced_splitText hparent helement
  have hfirst : ((doc.splitText parent id segment offset).node doc.size).element =
      .plainText (.source (segment.withStop offset)) :=
    hwellFormed.element_splitText_size hparent helement
  have hsecond : ((doc.splitText parent id segment offset).node id).element =
      .text (.source (segment.withStart offset)) breaks :=
    hwellFormed.element_splitText hparent helement
  refine hreplaced.alike source config hid hk (fun _ _ => ?content) (fun _ above _ => ?row) ?inline
    ?inlines
  case content =>
    simp only [List.flatMap_cons, List.flatMap_nil, List.append_nil, CodeSpan.childBytes,
      Scene.node, hfirst, hsecond, helement, Element.plainText]
    exact Segment.bytes_append hstart hstop
  case row =>
    by_cases habove : above = id
    · have hne : id ≠ parent := hwellFormed.ne_of_isParent hparent
      have hself : id ∉ doc.children id := hwellFormed.notMem_children hparent hne
      rw [habove, hwellFormed.children_splitText hparent helement hne,
        Document.flatMap_inPlace_of_notMem hself]
    · exact hreplaced.children_eq above habove
  case inline =>
    rw [Document.kind, helement]
    rfl
  case inlines =>
    intro other hother
    rcases List.mem_cons.mp hother with rfl | hother
    · rw [Document.kind, hfirst]
      rfl
    · rw [List.mem_singleton.mp hother, Document.kind, hsecond]
      rfl

/-- To enter the text, or to visit the new node and to enter the text then, comes to the same. -/
theorem leads_parts_enter {before after last : RenderState} (hfree : before.writer.Free)
    (hvisit : (forMarkdown config strikethrough).visit ⟨source, doc, config⟩ id .enter before =
      .ok .proceed after)
    (hleads : ((forMarkdown config strikethrough).visit
      ⟨source, doc.splitText parent id segment offset, config⟩).Leads before
        [(doc.size, .enter), (doc.size, .exit), (id, .enter)] last) : last = after := by
  have hadded : ((doc.splitText parent id segment offset).node doc.size).element =
      .plainText (.source (segment.withStop offset)) :=
    hwellFormed.element_splitText_size hparent helement
  have hkept : ((doc.splitText parent id segment offset).node id).element =
      .text (.source (segment.withStart offset)) breaks :=
    hwellFormed.element_splitText hparent helement
  generalize doc.splitText parent id segment offset = changed at hadded hkept hleads
  let other : Scene := ⟨source, changed, config⟩
  have hfirst : (other.node doc.size).element =
      .text (.source (segment.withStop offset)) {} := hadded
  have hsecond : (other.node id).element =
      .text (.source (segment.withStart offset)) breaks := hkept
  have hbytes : (segment.withStop offset).bytes source ++ (segment.withStart offset).bytes source =
      segment.bytes source := Segment.bytes_append hstart hstop
  have hwhole : (Scene.node ⟨source, doc, config⟩ id).element = .text (.source segment) breaks :=
    helement
  rw [visit_text_enter hwhole before hfree] at hvisit
  obtain ⟨middle, hentered, hleads⟩ := Visitor.leads_cons_iff.mp hleads
  obtain ⟨inner, hleft, hleads⟩ := Visitor.leads_cons_iff.mp hleads
  obtain ⟨final, htext, hnone⟩ := Visitor.leads_cons_iff.mp hleads
  rw [visit_text_enter hfirst before hfree] at hentered
  cases hentered
  rw [visit_text_exit hfirst _ (hfree.put _)] at hleft
  cases hleft
  rw [visit_text_enter hsecond _ (hfree.put _)] at htext
  cases htext
  cases hvisit
  have hput : (before.writer.put (textBytes before.codeSpan ((segment.withStop offset).bytes
      source))).put (textBytes before.codeSpan ((segment.withStart offset).bytes source)) =
        before.writer.put (textBytes before.codeSpan (segment.bytes source)) := by
    rw [← hfree.put_append, ← textBytes_append, hbytes]
  exact (Visitor.leads_nil_iff.mp hnone).trans (congrArg
    (fun writer => ({ before with writer := writer.putBreak breaks } : RenderState)) hput)

/-- At every visit, what is done in its place comes to the same. -/
theorem leads_parts {k : NodeId} {phase : Phase} (hk : k < doc.size)
    {before after last : RenderState} (hfree : before.writer.Free)
    (hvisit : (forMarkdown config strikethrough).visit ⟨source, doc, config⟩ k phase before =
      .ok .proceed after)
    (hleads : ((forMarkdown config strikethrough).visit
      ⟨source, doc.splitText parent id segment offset, config⟩).Leads before
        (Document.visitsOfParts doc.size id (k, phase)) last) : last = after := by
  by_cases hid : k = id
  · subst hid
    cases phase with
    | enter =>
        rw [Document.visitsOfParts_enter] at hleads
        exact leads_parts_enter hwellFormed hparent helement hstart hstop hfree hvisit hleads
    | exit =>
        have hkept : ((doc.splitText parent k segment offset).node k).element =
            .text (.source (segment.withStart offset)) breaks :=
          hwellFormed.element_splitText hparent helement
        generalize doc.splitText parent k segment offset = changed at hkept hleads
        have hwhole : (Scene.node ⟨source, doc, config⟩ k).element =
            .text (.source segment) breaks := helement
        have hsecond : (Scene.node ⟨source, changed, config⟩ k).element =
            .text (.source (segment.withStart offset)) breaks := hkept
        rw [Document.visitsOfParts_exit, Visitor.leads_singleton_iff,
          visit_text_exit hsecond before hfree] at hleads
        rw [visit_text_exit hwhole before hfree] at hvisit
        cases hvisit
        cases hleads
        rfl
  · rw [Document.visitsOfParts_of_ne doc.size hid, Visitor.leads_singleton_iff,
      visit_alike (alike_splitText hwellFormed hparent helement hstart hstop hid hk), hvisit]
      at hleads
    cases hleads
    rfl

/-- Splitting a text changes nothing about what is rendered: neither the bytes nor the warnings,
and nothing goes wrong. The text is any child but the root, where the rendering starts. -/
theorem render_splitText (hroot : id ≠ Document.root) (config : Config) (strikethrough : Bool)
    (source : Bytes) :
    let renderer := forMarkdown config strikethrough
    (renderer.render .unlimited source doc).1 = none ∧
      renderer.render .unlimited source (doc.splitText parent id segment offset) =
        renderer.render .unlimited source doc := by
  intro renderer
  obtain ⟨after, hleads, hrender⟩ := exists_leads config strikethrough source doc
  obtain ⟨last, hother, hsplit⟩ := exists_leads config strikethrough source
    (doc.splitText parent id segment offset)
  rw [hwellFormed.calls_splitText hparent helement hroot.symm] at hother
  have hsize : 0 < doc.size := Nat.zero_lt_of_lt (Document.lt_size_of_parent hparent)
  have hsame : last = after ∧ after.writer.Free := by
    refine hleads.simulates (fun state other => other = state ∧ state.writer.Free)
      (fun k phase hmem => ?_) hother ⟨rfl, LineWriter.onto_free rfl⟩
    rintro before inside _ middle ⟨rfl, hfree⟩ hvisit hwrite
    refine ⟨?_, free_of_dispatch hfree (visit_eq_ok hvisit).1⟩
    have hk : k < doc.size := hwellFormed.lt_size_of_mem_calls hsize hsize hmem
    exact leads_parts hwellFormed hparent helement hstart hstop hk hfree hvisit hwrite
  refine ⟨congrArg Prod.fst hrender, ?_⟩
  rw [hrender, hsplit, hsame.1]

end Split

/-- In the code span the text reaches beyond the end of the source, and the split cuts a
character. -/
theorem render_splitText_markedSpan :
    Document.markedSpan.WellFormed ∧ Document.markedSpan.IsParent 4 5 ∧
      (Document.markedSpan.node 5).element = .text (.source ⟨1, 7⟩) ⟨true, false⟩ ∧
      (forMarkdown {} false).render .unlimited [0x78, 0x60, 0xC3, 0xA9]
          (Document.markedSpan.splitText 4 5 ⟨1, 7⟩ 3) =
        (forMarkdown {} false).render .unlimited [0x78, 0x60, 0xC3, 0xA9] Document.markedSpan := by
  have hparent : Document.markedSpan.IsParent 4 5 := rfl
  have helement : (Document.markedSpan.node 5).element = .text (.source ⟨1, 7⟩) ⟨true, false⟩ := rfl
  have hstart : (⟨1, 7⟩ : Segment).start ≤ 3 := by decide
  have hsame := render_splitText Document.wellFormed_markedSpan hparent helement hstart
    (by decide) (by decide) {} false [0x78, 0x60, 0xC3, 0xA9]
  exact ⟨Document.wellFormed_markedSpan, hparent, helement, hsame.2⟩

end Renderer

end MarkdownFormat
