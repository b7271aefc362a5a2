/-
# Text in, text out

As long as a writer is given text, everything in it and everything it delivers is text:
lines are parted at newlines, put behind their leads and cut at their trailing blanks, and
none of that goes through a character. Render functions write text if the values in the
document are text, and those in the document of some events are, if the ranges of the events
begin and end at boundaries.
-/

import MarkdownFormat.Proofs.Event.Values
import MarkdownFormat.Proofs.Render.FailingSink

namespace MarkdownFormat

open Utf8 (IsText IsBoundary)

/-- What stands in place of a line ending inside of a code span is text. -/
theorem isText_joinedLines {bytes : Bytes} (htext : IsText bytes) :
    IsText (Render.joinedLines bytes) := by
  have hkept : ∀ {line : Bytes}, newline ∉ line → Render.joinedLines line = line := by
    intro line hnone
    have hsame : ∀ byte ∈ line, (if byte = newline then 0x20 else byte) = byte := by
      rintro byte hbyte
      rw [if_neg]
      rintro rfl
      exact hnone hbyte
    rw [Render.joinedLines, List.map_congr_left hsame, List.map_id']
  refine IsText.newline_induction ?_ ?_ htext
  · intro bytes htext hnone
    rwa [hkept hnone]
  · intro line rest hline hnone ih
    have hspace : IsText [0x20] := Utf8.isText_of_ascii (by simp)
    have hjoined : Render.joinedLines (line ++ newline :: rest) =
        line ++ ([0x20] ++ Render.joinedLines rest) := by
      simp only [Render.joinedLines, List.map_append, List.map_cons, if_true]
      rw [← Render.joinedLines, hkept hnone]
      rfl
    rw [hjoined]
    exact hline.append (hspace.append ih)

/-- Text is a sort of bytes that render functions keep to. -/
theorem admissible_isText : Admissible IsText where
  encode := Utf8.isText_encode
  joinedLines _ := isText_joinedLines

namespace LineWriter

/-- Whether all that a writer holds and has delivered is text. -/
structure HoldsText (writer : LineWriter) : Prop where
  buffer : IsText writer.buffer
  leads : ∀ lead ∈ writer.leads, IsText lead.bytes
  received : ∀ line ∈ writer.sink.received.toList, IsText line

namespace HoldsText

variable {writer : LineWriter} (hholds : writer.HoldsText)
include hholds

/-- A line of text stands behind leads of text, and is cut behind characters. -/
theorem finishedLine {piece : Bytes} (hpiece : IsText piece) :
    IsText (writer.finishedLine piece) := by
  have hlead : IsText writer.currentLead := by
    rw [currentLead, List.flatMap_def]
    apply IsText.flatten
    intro bytes hbytes
    obtain ⟨lead, hlead, rfl⟩ := List.mem_map.mp hbytes
    exact hholds.leads lead (List.mem_of_mem_filter (List.mem_reverse.mp hlead))
  exact (hlead.append hpiece).trimmedLine.append Utf8.isText_newline

/-- Lines of text are delivered as text. -/
theorem deliver {lines : List Bytes} {tail : Bytes} (hlines : ∀ line ∈ lines, IsText line)
    (htail : IsText tail) : (writer.deliver lines tail).HoldsText := by
  induction lines generalizing writer with
  | nil => exact ⟨htail, hholds.leads, hholds.received⟩
  | cons piece lines ih =>
      obtain ⟨hpiece, hlines⟩ := List.forall_mem_cons.mp hlines
      rw [LineWriter.deliver]
      cases hwrite : writer.sink.write (writer.finishedLine piece) with
      | ok sink =>
          have hsink : sink.received.toList =
              writer.sink.received.toList ++ [writer.finishedLine piece] := by
            rw [Sink.write] at hwrite
            split at hwrite
            · cases hwrite
              exact Array.toList_push
            · cases hwrite
          refine ih ⟨hholds.buffer, hholds.leads, ?_⟩ hlines
          rw [hsink, List.forall_mem_append]
          exact ⟨hholds.received, List.forall_mem_singleton.mpr (hholds.finishedLine hpiece)⟩
      | error fault => exact ⟨IsText.joinLines hlines htail, hholds.leads, hholds.received⟩

/-- Text is parted at its newlines. -/
theorem put {bytes : Bytes} (hbytes : IsText bytes) : (writer.put bytes).HoldsText := by
  obtain ⟨hlines, htail⟩ := (hholds.buffer.append hbytes).splitLines
  rw [LineWriter.put]
  split
  · exact hholds
  · exact hholds.deliver hlines htail

end HoldsText

/-- In the beginning there is nothing that is not text. -/
theorem holdsText_onto_unlimited : (onto .unlimited).HoldsText :=
  ⟨Utf8.isText_encode [], List.forall_mem_nil _, List.forall_mem_nil _⟩

/-- So a writer is left with text by all that may be done to it. -/
theorem kept_holdsText : Kept IsText HoldsText where
  put hholds hbytes := hholds.put hbytes
  endLine hholds := hholds.put Utf8.isText_newline
  pushLead lines hholds hbytes := by
    refine ⟨hholds.buffer, List.forall_mem_cons.mpr ⟨?_, hholds.leads⟩, hholds.received⟩
    cases lines <;> exact hbytes
  popLead {writer next} hholds hpop := by
    rw [popLead?] at hpop
    split at hpop
    · cases hpop
    · next lead leads hleads =>
        cases hpop
        have hrest := hholds.leads
        rw [hleads] at hrest
        exact ⟨hholds.buffer, (List.forall_mem_cons.mp hrest).2, hholds.received⟩
  check {writer} hholds := by
    rw [check]
    split
    · exact hholds
    · exact ⟨hholds.buffer, hholds.leads, hholds.received⟩

end LineWriter

namespace Renderer

/-- Source text in, text out: whatever events are reported about a text, as long as their
ranges begin and end at boundaries, those of autolinks with angle brackets, they make a
document, and with any configuration it is rendered as text. -/
theorem exists_renderText_ofEvents (text : String) (events : List PlacedEvent)
    (hevents : ∀ placed ∈ events, placed.IsWhole (Utf8.ofString text)) (config : Config)
    (strikethrough : Bool) :
    ∃ document output,
      Document.ofEvents? (Utf8.ofString text) events = some document ∧
      let renderer := forMarkdown config strikethrough
      let outcome := renderer.render .unlimited (Utf8.ofString text) document
      outcome.1 = none ∧ outcome.2.writer.sink.content = Utf8.ofString output ∧
      (renderer.renderText (Utf8.ofString text) document).1 = .ok output := by
  obtain ⟨document, hdocument, hwhole⟩ := Document.exists_ofEvents_isWhole hevents
  have hvalues : ∀ id, ∀ value ∈ (document.node id).values,
      IsText (value.bytes (Utf8.ofString text)) :=
    fun id value hvalue => ((hwhole id).values value hvalue).isText_bytes
  have hholds := keeps_renderNode admissible_isText LineWriter.kept_holdsText config
    strikethrough hvalues LineWriter.holdsText_onto_unlimited Document.root
  obtain ⟨last, -, hlast, -⟩ := exists_lines_renderNode config strikethrough
    (Utf8.ofString text) document Document.root
  rw [hlast] at hholds
  obtain ⟨output, houtput⟩ : IsText last.writer.sink.content := IsText.flatten hholds.received
  have hrender : (forMarkdown config strikethrough).render .unlimited (Utf8.ofString text)
      document = (none, last) := hlast
  refine ⟨document, String.ofList output, hdocument, ?_, ?_, ?_⟩
  · rw [hrender]
  · rw [hrender, houtput, Utf8.ofString, String.toList_ofList]
  · simp only [renderText, hrender, Utf8.decode_eq_ok.mpr houtput]

/-- A text with an escape, an autolink, a code span and characters of several bytes. -/
def escapedText : String :=
  "\\*é <ab:ü> `ß`\n"

/-- What is reported about the text. The escape is reported without its backslash. -/
def escapedTextEvents : List PlacedEvent :=
  [⟨.opened .paragraph, ⟨0, 17⟩⟩, ⟨.text "*é ", ⟨1, 5⟩⟩,
    ⟨.opened (.link .autolink "ab:ü" ""), ⟨5, 12⟩⟩, ⟨.text "ab:ü", ⟨6, 11⟩⟩,
    ⟨.closed .other, ⟨5, 12⟩⟩, ⟨.text " ", ⟨12, 13⟩⟩, ⟨.code "ß", ⟨13, 17⟩⟩,
    ⟨.closed .other, ⟨0, 17⟩⟩]

/-- What is made of the events and how it is rendered. -/
def escapedTextOutput : Option (Option String) :=
  (Document.ofEvents? (Utf8.ofString escapedText) escapedTextEvents).map fun document =>
    ((forMarkdown {} false).renderText (Utf8.ofString escapedText) document).1.toOption

/-- The backslash comes back, and no character is cut. -/
theorem exists_renderText_ofEvents_escapedText :
    (∀ placed ∈ escapedTextEvents, placed.IsWhole (Utf8.ofString escapedText)) ∧
    (∃ document, Document.ofEvents? (Utf8.ofString escapedText) escapedTextEvents =
      some document ∧ ((forMarkdown {} false).render .unlimited (Utf8.ofString escapedText)
        document).2.writer.sink.content = Utf8.ofString escapedText) ∧
    escapedTextOutput = some (some escapedText) := by
  have hevents : ∀ placed ∈ escapedTextEvents,
      placed.IsWhole (Utf8.ofString escapedText) := by decide +kernel
  have hescaped : escapedTextOutput = some (some escapedText) := by decide +kernel
  obtain ⟨document, output, hdocument, -, hcontent, htext⟩ :=
    exists_renderText_ofEvents escapedText escapedTextEvents hevents {} false
  have houtput : output = escapedText := by
    rw [escapedTextOutput, hdocument, Option.map_some, htext] at hescaped
    exact Option.some.inj (Option.some.inj hescaped)
  exact ⟨hevents, ⟨document, hdocument, houtput ▸ hcontent⟩, hescaped⟩

end Renderer

end MarkdownFormat
