/-
# Rendering into a sink that fails

A rendering into a sink that accepts only so many writes is compared with the same
rendering into a sink that accepts all of them. Both run the same script; where the
limit is passed, possibly in the middle of a visit, the sink keeps the first lines and
rendering stops with the fault of the sink.
-/

import MarkdownFormat.Proofs.Render.Pairing
import MarkdownFormat.Proofs.Writer.Limit
import MarkdownFormat.Proofs.Writer.LinesBehind

namespace MarkdownFormat.Renderer

/-- Rendering any node ends with a writer that has run a fixed script: with a sound one
if no write failed, and otherwise with the fault of the sink. -/
theorem exists_renderNode_script (config : Config) (strikethrough : Bool) (source : Bytes)
    (document : Document) (id : NodeId) :
    ∃ script, WriterCall.Level script ∧ ∀ sink written,
      (LineWriter.onto sink).run? script = some written →
      (written.health = .sound →
        ∃ last, (forMarkdown config strikethrough).renderNode sink source document id =
          (none, last) ∧ last.writer = written) ∧
      ∀ fault, written.health = .failed (some fault) →
        ∃ stopped, (forMarkdown config strikethrough).renderNode sink source document id =
          (some (.io fault), stopped) ∧ stopped.writer.sink = written.sink := by
  let renderer := forMarkdown config strikethrough
  let scene : Scene := ⟨source, document, renderer.config⟩
  obtain ⟨script, after, hwalk, hlevel, -⟩ :=
    exists_checked_walkTo (paired_dispatch config strikethrough scene) document.size id
      { writer := LineWriter.onto .unlimited }
  refine ⟨script ++ [.flushLine], hlevel.append WriterCall.level_flushLine, ?_⟩
  intro sink written hrun
  -- The sink of the state that the walk starts in does not matter to its script.
  have hwalk : Checked (document.walk (renderer.visit scene) id)
      { writer := LineWriter.onto sink } script after := hwalk
  obtain ⟨hok, herror⟩ := renderNode_of_checked hwalk hrun
  exact ⟨fun hsound => ⟨_, hok hsound, rfl⟩, herror⟩

/-- Nothing stops a rendering into a sink that never fails, and all that it delivers are lines with
their endings. -/
theorem exists_lines_renderNode (config : Config) (strikethrough : Bool) (source : Bytes)
    (document : Document) (id : NodeId) :
    ∃ last, ∃ lines : List Bytes,
      (forMarkdown config strikethrough).renderNode .unlimited source document id = (none, last) ∧
      last.writer.sink.received.toList = lines.map finished := by
  obtain ⟨script, hlevel, hrender⟩ :=
    exists_renderNode_script config strikethrough source document id
  have hfree : (LineWriter.onto .unlimited).Free := LineWriter.onto_free rfl
  obtain ⟨written, lines, hrun, hwritten, -, hbrings⟩ := hfree.exists_brings_of_level hlevel
  obtain ⟨last, hlast, rfl⟩ := (hrender .unlimited written hrun).1 hwritten.sound
  have hreceived := hbrings.received
  rw [LineWriter.onto, decorate_no_leads] at hreceived
  exact ⟨last, lines, hlast, hreceived⟩

/-- A sink that accepts `limit` writes and then fails ends up with the first lines of
the full output. Rendering succeeds exactly if that is all of them, and reports the
fault of the sink otherwise. -/
theorem render_limited_eq_take (config : Config) (strikethrough : Bool) (source : Bytes)
    (document : Document) (limit : Nat) (fault : IoFault) :
    let renderer := forMarkdown config strikethrough
    let full := renderer.render .unlimited source document
    let cut := renderer.render { limit := some limit, fault } source document
    let lines := full.2.writer.sink.received.toList
    full.1 = none ∧
    cut.2.writer.sink.received.toList = lines.take (min limit lines.length) ∧
    (cut.1 = none ↔ lines.length ≤ limit) ∧
    (limit < lines.length → cut.1 = some (.io fault)) ∧
    (fault ≠ .alreadyFailed → cut.1 ≠ some (.io .alreadyFailed)) := by
  intro renderer full cut lines
  obtain ⟨script, hlevel, hrender⟩ :=
    exists_renderNode_script config strikethrough source document Document.root
  obtain ⟨written, hrun⟩ := (LineWriter.onto .unlimited).exists_run?
    (Option.isSome_iff_exists.mpr ⟨_, hlevel _⟩)
  obtain ⟨curbed, hcurbedRun, hcurbed⟩ := (LineWriter.curbed_onto limit fault).run? hrun
  obtain ⟨last, hfull, hlast⟩ := (hrender .unlimited written hrun).1 hcurbed.free.sound
  obtain ⟨hok, herror⟩ := hrender _ curbed hcurbedRun
  have hlines : lines = written.sink.received.toList := by
    show full.2.writer.sink.received.toList = _
    rw [show full = (none, last) from hfull, hlast]
  have hlength : lines.length = written.sink.received.size := by simp [hlines]
  have htake : curbed.sink.received.toList = lines.take (min limit lines.length) := by
    rw [hcurbed.received, hlines, List.take_eq_take_min]
  refine ⟨by rw [show full = (none, last) from hfull], ?_⟩
  by_cases hroom : lines.length ≤ limit
  · obtain ⟨cutLast, hcut, hcutLast⟩ := hok (hcurbed.sound_of_le (by omega))
    have hcut : cut = (none, cutLast) := hcut
    simp [hcut, hcutLast, htake, hroom]
  · obtain ⟨stopped, hcut, hstopped⟩ := herror fault (hcurbed.failed_of_lt (by omega))
    have hcut : cut = (some (.io fault), stopped) := hcut
    simp [hcut, hstopped, htake, hroom]

/-- A document of two thematic breaks. -/
def twoRules : Document :=
  ⟨#[{ element := .document, firstChild := some 1, lastChild := some 2 },
    { element := .thematicBreak, parent := some 0, next := some 2 },
    { element := .thematicBreak, parent := some 0, previous := some 1 }]⟩

/-- The outcome of rendering two thematic breaks. -/
def renderTwoRules (sink : Sink) : Option RenderFault × RenderState :=
  (forMarkdown {} false).render sink [] twoRules

theorem lines_renderTwoRules :
    (renderTwoRules .unlimited).2.writer.sink.received.toList =
      [Utf8.ofString "---\n", Utf8.ofString "---\n"] := by
  decide +kernel

/-- One write is not enough for two thematic breaks. -/
theorem render_limited_eq_take_twoRules :
    1 < (renderTwoRules .unlimited).2.writer.sink.received.toList.length ∧
    IoFault.nothingAccepted ≠ .alreadyFailed ∧
    (renderTwoRules { limit := some 1 }).2.writer.sink.received.toList =
      [Utf8.ofString "---\n"] ∧
    (renderTwoRules { limit := some 1 }).1 = some (.io .nothingAccepted) ∧
    (renderTwoRules { limit := some 1 }).1 ≠ some (.io .alreadyFailed) := by
  obtain ⟨-, htake, -, hfault, hkept⟩ :=
    render_limited_eq_take {} false [] twoRules 1 .nothingAccepted
  rw [← renderTwoRules, ← renderTwoRules] at htake
  have hpast : 1 < (renderTwoRules .unlimited).2.writer.sink.received.toList.length := by
    rw [lines_renderTwoRules]
    exact Nat.one_lt_two
  refine ⟨hpast, by decide, ?_, hfault hpast, hkept (by decide)⟩
  rw [htake, lines_renderTwoRules]
  rfl

end MarkdownFormat.Renderer
