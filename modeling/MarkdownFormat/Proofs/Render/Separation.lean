/-
# Blocks below text

An underline belongs to the text right above it, so a heading with an underline, or a rule of
dashes, must not come right below the text of another block. Assembling and rendering see to it
together: either an empty line is marked before the block, which the rendering delivers once the
block before it has ended its last line, or another form is chosen that is no underline.
-/

import MarkdownFormat.Proofs.Event.Neighbours
import MarkdownFormat.Proofs.Render.AtxHeading
import MarkdownFormat.Proofs.Render.Completion
import MarkdownFormat.Proofs.Render.VisitLog

namespace MarkdownFormat

open WriterCall

namespace Renderer

variable {config : Config} {strikethrough : Bool} {scene : Scene}

/-- Nothing that has been delivered is lost. -/
theorem kept_received (front : List Bytes) : LineWriter.Kept (fun _ => True) fun writer =>
    writer.Free ∧ front <+: writer.sink.received.toList where
  put hwriter _ := ⟨kept_free.put hwriter.1 trivial, hwriter.2.trans (hwriter.1.prefix_put _)⟩
  endLine hwriter := ⟨kept_free.endLine hwriter.1, hwriter.2.trans (hwriter.1.prefix_put _)⟩
  pushLead lines hwriter _ := ⟨kept_free.pushLead lines hwriter.1 trivial, hwriter.2⟩
  popLead {writer next} hwriter hpop := by
    have hfree := kept_free.popLead hwriter.1 hpop
    rw [LineWriter.popLead?] at hpop
    split at hpop <;> cases hpop
    exact ⟨hfree, hwriter.2⟩
  check {writer} hwriter := by
    rw [LineWriter.check, hwriter.1.sound]
    exact hwriter

/-- Visits that go through only add to what has been delivered. -/
theorem received_of_passes {before after : RenderState} {log : List (Visit RenderState)}
    (hpasses : ((forMarkdown config strikethrough).visit scene).Passes before log after)
    (hfree : before.writer.Free) :
    before.writer.sink.received.toList <+: after.writer.sink.received.toList := by
  let holds (writer : LineWriter) : Prop :=
    writer.Free ∧ before.writer.sink.received.toList <+: writer.sink.received.toList
  have hlast : holds after.writer := by
    refine @Visitor.Passes.keeps _ _ _ _ _ _ (fun state => holds state.writer) ?_ hpasses
      ⟨hfree, List.prefix_rfl⟩
    intro id phase state next hvisit hstate
    have hnext : holds (lastState
        ((forMarkdown config strikethrough).visit scene id phase state)).writer :=
      keeps_visit admissible_any (kept_received _) config strikethrough (fun _ _ => trivial) state
        hstate
    rw [hvisit] at hnext
    exact hnext
  exact hlast.2

/-- The visit before one that enters a node with a neighbour leaves that neighbour. -/
theorem IsRun.exists_left {depth : Nat} {before after : RenderState}
    {log : List (Visit RenderState)}
    (hrun : IsRun config strikethrough scene (scene.document.callsTo depth Document.root) before
      after log)
    (hparted : scene.document.IsParted) {entered : Visit RenderState} (hmem : entered ∈ log)
    (henter : entered.phase = .enter) {previous : NodeId}
    (hprevious : (scene.node entered.id).previous = some previous) :
    ∃ front left back, log = front ++ left :: entered :: back ∧
      left.call = (previous, .exit) ∧ left.after = entered.before := by
  obtain ⟨first, back, hlog⟩ := List.append_of_mem hmem
  have hchain : log.IsChain fun one next => scene.document.GoesOn one.call next.call := by
    rw [← List.isChain_map, hrun.calls_eq]
    exact Document.isChain_callsTo hparted.row depth Document.root
  rcases List.eq_nil_or_concat first with rfl | ⟨front, left, rfl⟩
  · -- The first visit enters the root, which has no neighbour.
    have hfirst := hrun.calls_eq
    rw [hlog] at hfirst
    cases depth with
    | zero => cases hfirst
    | succ depth =>
        have hroot := congrArg Prod.fst (List.cons.inj hfirst).1
        change entered.id = Document.root at hroot
        rw [hroot, Scene.node, hparted.previous_root] at hprevious
        cases hprevious
  · rw [List.concat_eq_append, List.append_assoc, List.singleton_append] at hlog
    subst hlog
    obtain ⟨-, hgoes, -⟩ := List.isChain_append_cons_cons.mp hchain
    refine ⟨front, left, back, rfl, hgoes henter previous hprevious, ?_⟩
    obtain ⟨-, -, hrest⟩ := hrun.passes.visit_of_append
    cases hrest
    rfl

/-- All blocks that come from events have a function of their own. -/
theorem hasRenderer_of_isReported {kind : Kind} (hreported : kind.IsReported)
    (hblock : kind.isBlock) : (forMarkdown config strikethrough).hasRenderer kind := by
  have hother : kind ≠ .strikethrough := by
    rintro rfl
    cases hblock
  rw [hasRenderer, functions_forMarkdown, if_neg (not_and_of_not_right _ hother)]
  cases kind with
  | custom name block =>
      rw [hreported.resolve_left hother]
      rfl
  | text | emphasis | codeSpan | link | image | autoLink | rawHtml => cases hblock
  | _ => rfl

end Renderer

open Heading (blockStart)

/-- The output of a node begins below an empty line: the node before it has just been left and
has ended its last line, and the next line that is delivered is made of the leads alone. -/
structure Visit.IsSetOff (scene : Scene) (log : List (Visit RenderState)) (last : RenderState)
    (previous : NodeId) (entered : Visit RenderState) : Prop where
  follows : ∃ left : Visit RenderState, [left, entered] <:+: log ∧
    left.call = (previous, .exit) ∧ left.after = entered.before
  buffer_before : entered.before.writer.buffer = []
  buffer_start : (blockStart scene entered.id entered.before.writer).buffer = []
  received_start :
    (blockStart scene entered.id entered.before.writer).sink.received.toList =
      entered.before.writer.sink.received.toList ++ [entered.before.writer.finishedLine []]
  received_last :
    (blockStart scene entered.id entered.before.writer).sink.received.toList <+:
      last.writer.sink.received.toList

/-- What a heading asks of the writer before and behind its content, underlined or not. -/
def Heading.calls (scene : Scene) (id : NodeId) (level : Nat) : Bool → Phase → List WriterCall
  | true, .enter => []
  | true, .exit => [.endLine, .write (Utf8.encode (underline scene id level))]
  | false, .enter => .write (Utf8.encode (marks level)) ::
      if scene.document.hasChildren id then [.write (Utf8.encode [' '])] else []
  | false, .exit =>
      if scene.config.headingStyle = .atxSurround then
        [.write (Utf8.encode (' ' :: marks level))]
      else []

/-- The script of a heading depends on its form and not on what is around it. -/
theorem Heading.script_eq (scene : Scene) (id : NodeId) (level : Nat) (phase : Phase) :
    script scene id level phase = calls scene id level (isUnderlined scene id level) phase := by
  cases phase <;> cases hunderlined : isUnderlined scene id level <;>
    simp [script, calls, hunderlined]

/-- Entering a block does what its own function asks for, where the block starts. -/
theorem Renderer.run?_blockStart {renderer : Renderer} {scene : Scene} {id : NodeId}
    {script : List WriterCall} {before state after : RenderState}
    (hperforms : Performs (renderer.dispatch scene id .enter) before
      (separation scene id ++ script) .proceed state)
    (hlevel : Level script) (hfree : before.writer.Free)
    (hvisit : renderer.visit scene id .enter before = .ok .proceed after) :
    (blockStart scene id before.writer).run? script = some after.writer := by
  have hwhole := run?_of_visit hperforms ((level_separation _ _).append hlevel) hfree hvisit
  rwa [LineWriter.run?_append, Heading.run?_separation] at hwhole

/-- A block follows text if the one before is text and no blank line parts them. -/
theorem Document.followsText_iff {document : Document} {id previous : NodeId}
    (hprevious : (document.node id).previous = some previous) :
    document.followsText id ↔ ¬ (document.node id).blankBefore ∧
      (document.kind previous = .paragraph ∨ document.kind previous = .textBlock) := by
  simp [followsText, hprevious]

/-- Before a heading of one line at most that is underlined, a blank line is marked: below a text
block it would not be underlined without one, and below all other nodes there always is one. -/
theorem Document.IsParted.blankBefore_of_isUnderlined {scene : Scene} {id previous : NodeId}
    {level : Nat} (hparted : scene.document.IsParted)
    (helement : (scene.node id).element = .heading level)
    (hlines : (scene.node id).lines.length ≤ 1) (hunderlined : Heading.isUnderlined scene id level)
    (hprevious : (scene.node id).previous = some previous) : (scene.node id).blankBefore := by
  have hkind : scene.document.kind id = .heading := congrArg Element.kind helement
  by_cases htext : scene.document.kind previous = .textBlock
  · by_contra hblank
    have hbelow : scene.document.followsText id :=
      (followsText_iff hprevious).mpr ⟨hblank, .inr htext⟩
    simp [Heading.isUnderlined, Nat.not_lt.mpr hlines, hbelow] at hunderlined
  · refine hparted.blankBefore hprevious (by rw [hkind]; rfl) (.inl ⟨.inr hkind, htext, ?_⟩)
    rw [hkind]
    nofun

namespace Renderer

section Entering

variable {config : Config} {strikethrough : Bool} {source : Bytes} {document : Document}
  {depth : Nat} {before after last : RenderState} {log : List (Visit RenderState)}
  {entered : Visit RenderState}

variable
  (hrun : IsRun config strikethrough ⟨source, document, config⟩
    (document.callsTo depth Document.root) before after log)
  (hlast : after.writer.sink.received.toList <+: last.writer.sink.received.toList)
  (hparted : document.IsParted) (hmem : entered ∈ log) (henter : entered.phase = .enter)
include hrun hlast hparted hmem henter

/-- A block with blank lines before it is set off from a block. -/
theorem IsRun.isSetOff {previous : NodeId}
    (hprevious : (document.node entered.id).previous = some previous)
    (hblock : (document.kind previous).isBlock) (hblank : (document.node entered.id).blankBefore)
    {script : List WriterCall} (hlevel : Level script)
    (hscript : (blockStart ⟨source, document, config⟩ entered.id entered.before.writer).run?
      script = some entered.after.writer) :
    entered.IsSetOff ⟨source, document, config⟩ log last previous := by
  obtain ⟨entry, hentry⟩ := hrun.closesNodes entered hmem henter
  have hfree := hentry.free
  obtain ⟨front, left, back, rfl, hcall, hafter⟩ := hrun.exists_left hparted hmem henter hprevious
  have hbuffer : entered.before.writer.buffer = [] := by
    have hvisit := hrun.passes.visit_of_append.2.1
    obtain ⟨hid, hexit⟩ := Prod.mk.inj hcall
    rw [hexit, hafter] at hvisit
    rw [← hid] at hblock
    obtain ⟨own, hfunction⟩ := function_of_isBlock hblock
      (hasRenderer_of_isReported (hparted.isReported left.id) hblock)
    exact buffer_of_visit hfunction hvisit
  have hstart : blockStart ⟨source, document, config⟩ entered.id entered.before.writer =
      entered.before.writer.deliver [[]] [] := by
    have hset : (Scene.node ⟨source, document, config⟩ entered.id).previous.isSome &&
        (Scene.node ⟨source, document, config⟩ entered.id).blankBefore := by
      simp [Scene.node, hprevious, hblank]
    rw [blockStart, if_pos hset, LineWriter.endLine, hfree.put_newline (by simp [hbuffer]), hbuffer]
  have hsent := LineWriter.deliver_unlimited hfree.unlimited [[]] []
  rw [hstart] at hscript
  refine ⟨⟨left, ⟨front, back, by simp⟩, hcall, hafter⟩, hbuffer, ?_, ?_, ?_⟩
  · rw [hstart, hsent]
  · rw [hstart, hsent]
    exact Array.toList_append
  · obtain ⟨next, pieces, hnext, hfreeNext, -, hbrings⟩ :=
      (hfree.deliver [[]] []).exists_brings_of_level hlevel
    obtain rfl := Option.some.inj (hscript.symm.trans hnext)
    have hlater : entered.after.writer.sink.received.toList <+:
        after.writer.sink.received.toList := by
      obtain ⟨-, -, _ | ⟨-, hback⟩⟩ := hrun.passes.visit_of_append
      exact received_of_passes hback hfreeNext
    rw [hstart]
    exact (List.IsPrefix.trans ⟨_, hbrings.received.symm⟩ hlater).trans hlast

/-- A heading has the same form when it is entered and when it is left, and with an underline and
one line at most it is set off. -/
theorem IsRun.heading {level : Nat}
    (helement : (document.node entered.id).element = .heading level) :
    let scene : Scene := ⟨source, document, config⟩
    ∃ underlined left, entered.IsLeftBy log left ∧
      (blockStart scene entered.id entered.before.writer).run?
        (Heading.calls scene entered.id level underlined .enter) = some entered.after.writer ∧
      left.before.writer.run? (Heading.calls scene entered.id level underlined .exit ++
        [.flushLine]) = some left.after.writer ∧
      (underlined → (document.node entered.id).lines.length ≤ 1 →
        ∀ previous, (document.node entered.id).previous = some previous →
          (document.kind previous).isBlock → entered.IsSetOff scene log last previous) := by
  intro scene
  obtain ⟨left, hleft⟩ := hrun.closesNodes entered hmem henter
  have hrender : (forMarkdown config strikethrough).functions .heading =
      some (asBlock Render.heading) := by
    rw [functions_forMarkdown]
    exact if_neg (not_and_of_not_right _ nofun)
  have hopened : (blockStart scene entered.id entered.before.writer).run?
      (Heading.script scene entered.id level .enter) = some entered.after.writer := by
    have helement : (scene.node entered.id).element = .heading level := helement
    have hvisit := hrun.passes.visit_of_mem hmem
    rw [henter] at hvisit
    exact run?_blockStart (Heading.performs_dispatch_heading_enter hrender helement)
      (Heading.level_script _ _ _ _) hleft.free hvisit
  have hclosed : left.before.writer.run? (Heading.script scene entered.id level .exit ++
      [.flushLine]) = some left.after.writer := by
    obtain ⟨hid, hexit, inside, -, hinside⟩ := hleft.isLeftBy
    have hvisit := hrun.passes.visit_of_mem (hinside.subset (by simp : left ∈ _))
    rw [hexit, hid] at hvisit
    exact run?_of_visit (Heading.performs_dispatch_heading_exit hrender helement)
      ((Heading.level_script _ _ _ _).append level_flushLine) hleft.innerFree hvisit
  refine ⟨Heading.isUnderlined scene entered.id level, left, hleft.isLeftBy, ?_, ?_, ?_⟩
  · rwa [← Heading.script_eq]
  · rwa [← Heading.script_eq]
  · intro hunderlined hlines previous hprevious hblock
    have hblank : (scene.node entered.id).blankBefore :=
      Document.IsParted.blankBefore_of_isUnderlined hparted helement hlines hunderlined hprevious
    exact hrun.isSetOff hlast hparted hmem henter hprevious hblock hblank
      (Heading.level_script _ _ _ _) hopened

/-- A rule below a paragraph or a text block is set off or has no dashes. -/
theorem IsRun.thematicBreak (hkind : document.kind entered.id = .thematicBreak) :
    let scene : Scene := ⟨source, document, config⟩
    ∃ style : BreakStyle,
      entered.after.writer = (blockStart scene entered.id entered.before.writer).put
        (Utf8.encode (List.replicate config.effectiveBreakLength style.char)) ∧
      ∀ previous, (document.node entered.id).previous = some previous →
        document.kind previous = .paragraph ∨ document.kind previous = .textBlock →
        entered.IsSetOff scene log last previous ∨ style.char ≠ '-' := by
  intro scene
  obtain ⟨left, hleft⟩ := hrun.closesNodes entered hmem henter
  have hopened : (blockStart scene entered.id entered.before.writer).run?
      [.write (Utf8.encode (thematicRule scene entered.id))] = some entered.after.writer := by
    have hperforms : Performs ((forMarkdown config strikethrough).dispatch scene entered.id .enter)
        entered.before (separation scene entered.id ++
          [.write (Utf8.encode (thematicRule scene entered.id))]) .proceed entered.before := by
      rw [dispatch_forMarkdown hkind rfl rfl]
      exact performs_asBlock_enter performs_thematicBreak_enter
    have hvisit := hrun.passes.visit_of_mem hmem
    rw [henter] at hvisit
    exact run?_blockStart hperforms (level_write _) hleft.free hvisit
  refine ⟨_, (Option.some.inj hopened).symm, fun previous hprevious htext => ?_⟩
  by_cases hblank : (document.node entered.id).blankBefore
  · have hblock : (document.kind previous).isBlock := by
      rcases htext with htext | htext <;> rw [htext] <;> rfl
    exact .inl (hrun.isSetOff hlast hparted hmem henter hprevious hblock hblank (level_write _)
      hopened)
  · refine .inr ?_
    have hbelow : document.followsText entered.id :=
      (Document.followsText_iff hprevious).mpr ⟨hblank, htext⟩
    show (if config.breakStyle = .dashed && document.followsText entered.id then BreakStyle.starred
      else config.breakStyle).char ≠ '-'
    rw [hbelow, Bool.and_true]
    cases config.breakStyle <;> decide

end Entering

/-- Events with ranges inside the source make a document in which no underline takes in the text
above it, whatever the config is: every node is entered once, a heading that is underlined and
has one line at most is set off from a block before it, a rule is set off from a paragraph or a
text block before it or has no dashes, and a heading is left in the form it was entered in. -/
theorem render_setsOffUnderlines (config : Config) (strikethrough : Bool) {source : Bytes}
    {events : List PlacedEvent} (hevents : ∀ placed ∈ events, placed.range.isWithin source) :
    ∃ document last, Document.ofEvents? source events = some document ∧
      let renderer := forMarkdown config strikethrough
      let scene : Scene := ⟨source, document, config⟩
      let log := renderer.visits .unlimited source document Document.root
      renderer.render .unlimited source document = (none, last) ∧
      Document.entered (log.map Visit.call) = List.range document.size ∧
      ∀ entered ∈ log, entered.phase = .enter →
        let start := blockStart scene entered.id entered.before.writer
        (∀ level, (document.node entered.id).element = .heading level →
          ∃ underlined left, entered.IsLeftBy log left ∧
            start.run? (Heading.calls scene entered.id level underlined .enter) =
              some entered.after.writer ∧
            left.before.writer.run? (Heading.calls scene entered.id level underlined .exit ++
              [.flushLine]) = some left.after.writer ∧
            (underlined → (document.node entered.id).lines.length ≤ 1 →
              ∀ previous, (document.node entered.id).previous = some previous →
                (document.kind previous).isBlock → entered.IsSetOff scene log last previous)) ∧
        (document.kind entered.id = .thematicBreak → ∃ style : BreakStyle,
          entered.after.writer = start.put
            (Utf8.encode (List.replicate config.effectiveBreakLength style.char)) ∧
          ∀ previous, (document.node entered.id).previous = some previous →
            document.kind previous = .paragraph ∨ document.kind previous = .textBlock →
            entered.IsSetOff scene log last previous ∨ style.char ≠ '-') := by
  obtain ⟨document, hdocument, hparted⟩ := Document.exists_ofEvents_isParted hevents
  obtain ⟨after, hrun, hrender⟩ := exists_render_unlimited config strikethrough source document
  rw [config_forMarkdown] at hrun
  have hlast := hrun.free.prefix_flushLine
  refine ⟨document, _, hdocument, hrender, ?_, fun entered hmem henter => ⟨?_, ?_⟩⟩
  · rw [hrun.calls_eq, hparted.entered_eq]
  · intro level helement
    exact hrun.heading hlast hparted hmem henter helement
  · exact hrun.thematicBreak hlast hparted hmem henter

/-- A paragraph, a heading right below it, and a tight item with a rule right below its text. -/
def belowTextSource : Bytes :=
  Utf8.ofString "a\n# b\n- c\n  ***\n"

/-- What a reader reports of them. -/
def belowTextEvents : List PlacedEvent :=
  [⟨.opened .paragraph, ⟨0, 2⟩⟩, ⟨.text "a", ⟨0, 1⟩⟩, ⟨.closed .other, ⟨0, 2⟩⟩,
    ⟨.opened (.heading 1), ⟨2, 6⟩⟩, ⟨.text "b", ⟨4, 5⟩⟩, ⟨.closed .heading, ⟨2, 6⟩⟩,
    ⟨.opened (.list none), ⟨6, 16⟩⟩, ⟨.opened .item, ⟨6, 16⟩⟩, ⟨.text "c", ⟨8, 9⟩⟩,
    ⟨.rule, ⟨12, 16⟩⟩, ⟨.closed .other, ⟨6, 16⟩⟩, ⟨.closed .other, ⟨6, 16⟩⟩]

/-- With an underline, the heading is set off from the paragraph; the rule gets asterisks. -/
theorem render_setsOffUnderlines_tightItem :
    (∀ placed ∈ belowTextEvents, placed.range.isWithin belowTextSource) ∧
    ∃ document last, Document.ofEvents? belowTextSource belowTextEvents = some document ∧
      let config : Config := { headingStyle := .setext }
      let scene : Scene := ⟨belowTextSource, document, config⟩
      let log := (forMarkdown config true).visits .unlimited belowTextSource document Document.root
      last.writer.sink.received = #[Utf8.ofString "a\n", Utf8.ofString "\n",
        Utf8.ofString "b\n", Utf8.ofString "===\n", Utf8.ofString "\n", Utf8.ofString "- c\n",
        Utf8.ofString "  ***\n"] ∧
      ∃ entered ∈ log, entered.call = (3, .enter) ∧ entered.IsSetOff scene log last 1 := by
  have hevents : ∀ placed ∈ belowTextEvents, placed.range.isWithin belowTextSource := by
    decide +kernel
  let config : Config := { headingStyle := .setext }
  let sceneOf (document : Document) : Scene := ⟨belowTextSource, document, config⟩
  let logOf (document : Document) : List (Visit RenderState) :=
    (forMarkdown config true).visits .unlimited belowTextSource document Document.root
  -- Entering the heading writes no number signs.
  let entersPlainly (document : Document) (visit : Visit RenderState) : Bool :=
    visit.call = (3, .enter) && (blockStart (sceneOf document) 3 visit.before.writer).run?
      (Heading.calls (sceneOf document) 3 1 false .enter) ≠ some visit.after.writer
  have hreceived : (Document.ofEvents? belowTextSource belowTextEvents).map (fun document =>
      ((forMarkdown config true).render .unlimited belowTextSource
        document).2.writer.sink.received) =
      some #[Utf8.ofString "a\n", Utf8.ofString "\n", Utf8.ofString "b\n",
        Utf8.ofString "===\n", Utf8.ofString "\n", Utf8.ofString "- c\n",
        Utf8.ofString "  ***\n"] := by
    decide +kernel
  have hfacts : (Document.ofEvents? belowTextSource belowTextEvents).map (fun document =>
      ((document.node 3).element, (document.node 3).lines.length, (document.node 3).previous,
        document.kind 1, (logOf document).any (entersPlainly document))) =
      some (.heading 1, 1, some 1, .paragraph, true) := by
    decide +kernel
  obtain ⟨document, last, hdocument, hrender, -, hforms⟩ :=
    render_setsOffUnderlines config true hevents
  rw [hdocument, Option.map_some, Option.some.injEq] at hreceived hfacts
  rw [hrender] at hreceived
  simp only [Prod.mk.injEq] at hfacts
  obtain ⟨helement, hlines, hprevious, hkind, hfound⟩ := hfacts
  obtain ⟨entered, hmem, hplain⟩ := List.any_eq_true.mp hfound
  simp only [entersPlainly, Bool.and_eq_true, decide_eq_true_eq] at hplain
  obtain ⟨hcall, hnoSigns⟩ := hplain
  obtain ⟨hid, henter⟩ := Prod.mk.inj hcall
  have hheading := (hforms entered hmem henter).1 1 (by rw [hid]; exact helement)
  rw [hid] at hheading
  obtain ⟨underlined, left, -, hopened, -, hsetOff⟩ := hheading
  have hunderlined : underlined := by
    cases underlined with
    | true => rfl
    | false => exact absurd hopened hnoSigns
  exact ⟨hevents, document, last, hdocument, hreceived, entered, hmem, hcall,
    hsetOff hunderlined (Nat.le_of_eq hlines) 1 hprevious (by rw [hkind]; rfl)⟩

end Renderer

end MarkdownFormat
