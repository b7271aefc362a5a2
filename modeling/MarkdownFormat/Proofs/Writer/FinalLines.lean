/-
# Final lines

What a writer has delivered need not be touched again. As long as no lead brings a newline,
each write to the sink is one line with its ending, cut so that nothing is left to cut. The
lines are counted, and what waits for its ending holds no newline. So a second writer without
leads takes the content of the sink through as it is.
-/

import MarkdownFormat.Proofs.Text.Boundary
import MarkdownFormat.Proofs.Writer.Dialogue

namespace MarkdownFormat

open Utf8 (IsText trimmedLine_encode trimmedLine_of_not_isText)

/-- Nothing is left to cut from a line that has been cut. One that is not text does not become
text by losing ASCII blanks, so that the same blanks are looked for again. -/
theorem trimmedLine_trimmedLine (line : Bytes) :
    trimmedLine (trimmedLine line) = trimmedLine line := by
  by_cases hline : IsText line
  · obtain ⟨text, rfl⟩ := hline
    rw [trimmedLine_encode, trimmedLine_encode, dropTrailing_eq_rdropWhile,
      dropTrailing_eq_rdropWhile, List.rdropWhile_idempotent]
  · obtain ⟨back, hsplit, hback⟩ := exists_dropTrailing_append isBlankByte line
    have hcut : ¬ IsText (trimBytesEnd line) := by
      intro htext
      apply hline
      rw [hsplit]
      exact htext.append (Utf8.isText_of_ascii fun byte hbyte =>
        Utf8.ascii_of_isBlankByte (hback byte hbyte))
    rw [trimmedLine_of_not_isText hline, trimmedLine_of_not_isText hcut, trimBytesEnd,
      trimBytesEnd, dropTrailing_eq_rdropWhile, dropTrailing_eq_rdropWhile,
      List.rdropWhile_idempotent]

/-- One line with its ending, and no blanks before that. -/
def IsFinalLine (bytes : Bytes) : Prop :=
  ∃ line, newline ∉ line ∧ trimmedLine line = line ∧ bytes = line ++ [newline]

/-- A finished line is final if it was one line. -/
theorem isFinalLine_finished {line : Bytes} (hline : newline ∉ line) :
    IsFinalLine (finished line) :=
  ⟨trimmedLine line, fun hmem => hline ((Utf8.trimmedLine_prefix line).subset hmem),
    trimmedLine_trimmedLine line, rfl⟩

namespace LineWriter

/-- The lines of a writer are final and counted, and neither its leads nor, unless its sink has
failed, what waits for its ending hold a newline. -/
structure IsFinal (writer : LineWriter) : Prop where
  counts : writer.Counts
  leads : ∀ lead ∈ writer.leads, newline ∉ lead.bytes
  received : ∀ bytes ∈ writer.sink.received.toList, IsFinalLine bytes
  buffer : writer.isFailed = false → newline ∉ writer.buffer

/-- In the beginning nothing is delivered and nothing waits. -/
theorem isFinal_onto {sink : Sink} (hempty : sink.received = #[]) : (onto sink).IsFinal where
  counts := (congrArg Array.size hempty).symm
  leads := List.forall_mem_nil _
  received := by
    rw [onto, hempty]
    exact List.forall_mem_nil _
  buffer _ := List.not_mem_nil

namespace IsFinal

variable {writer : LineWriter} (hfinal : writer.IsFinal)
include hfinal

/-- A finished line has leads without a newline. -/
theorem finishedLine {piece : Bytes} (hpiece : newline ∉ piece) :
    IsFinalLine (writer.finishedLine piece) := by
  apply isFinalLine_finished
  rw [List.mem_append, not_or]
  refine ⟨fun hmem => ?_, hpiece⟩
  obtain ⟨lead, hlead, hbyte⟩ := List.mem_flatMap.mp hmem
  exact hfinal.leads lead (List.mem_of_mem_filter (List.mem_reverse.mp hlead)) hbyte

/-- Lines are delivered while nothing that waits holds a newline. -/
theorem deliver {pieces : List Bytes} {tail : Bytes} (hpieces : ∀ piece ∈ pieces, newline ∉ piece)
    (htail : newline ∉ tail) : (writer.deliver pieces tail).IsFinal := by
  have hcounts := hfinal.counts.deliver pieces tail
  induction pieces generalizing writer with
  | nil => exact ⟨hcounts, hfinal.leads, hfinal.received, fun _ => htail⟩
  | cons piece pieces ih =>
      obtain ⟨hpiece, hpieces⟩ := List.forall_mem_cons.mp hpieces
      rw [LineWriter.deliver] at hcounts ⊢
      by_cases haccepts : writer.sink.accepts
      · simp only [Sink.write, haccepts, if_true] at hcounts ⊢
        refine ih ⟨?_, hfinal.leads, ?_, hfinal.buffer⟩ hpieces hcounts
        · show writer.line + 1 = (writer.sink.received.push _).size
          rw [Array.size_push, hfinal.counts]
        · rw [Array.toList_push, List.forall_mem_append]
          exact ⟨hfinal.received, List.forall_mem_singleton.mpr (hfinal.finishedLine hpiece)⟩
      · simp only [Sink.write, haccepts] at hcounts ⊢
        exact ⟨hcounts, hfinal.leads, hfinal.received, fun hsound => by cases hsound⟩

/-- What is put is parted at its newlines. -/
theorem put (bytes : Bytes) : (writer.put bytes).IsFinal := by
  rw [LineWriter.put]
  split
  · exact hfinal
  · exact hfinal.deliver (newline_notMem_splitLines_fst _) (newline_notMem_splitLines_snd _)

/-- A line that waits may be flushed. -/
theorem flushLine : writer.flushLine.IsFinal := by
  rw [LineWriter.flushLine]
  split
  · exact hfinal
  · exact hfinal.put [newline]

/-- A lead without a newline may be pushed. -/
theorem pushLead {bytes : Bytes} (hbytes : newline ∉ bytes) (lines : LeadLines) :
    (writer.pushLead bytes lines).IsFinal := by
  refine ⟨hfinal.counts, List.forall_mem_cons.mpr ⟨?_, hfinal.leads⟩, hfinal.received,
    hfinal.buffer⟩
  cases lines <;> exact hbytes

/-- Taking a lead away leaves the others. -/
theorem popLead? {next : LineWriter} (hpop : writer.popLead? = some next) : next.IsFinal := by
  rw [LineWriter.popLead?] at hpop
  split at hpop
  · cases hpop
  · next lead leads hleads =>
      cases hpop
      have hrest := hfinal.leads
      rw [hleads] at hrest
      exact ⟨hfinal.counts, (List.forall_mem_cons.mp hrest).2, hfinal.received, hfinal.buffer⟩

/-- Asking for a failure leaves all that is delivered. -/
theorem check : writer.check.2.IsFinal := by
  rw [LineWriter.check]
  split
  · exact hfinal
  · exact ⟨hfinal.counts, hfinal.leads, hfinal.received, fun hsound => by cases hsound⟩

end IsFinal

/-- One thing that happens to a writer: it is asked something, or it starts anew over another
sink, which is empty and may have a limit of its own. -/
inductive Step
  | ask (request : WriterRequest)
  | reset (limit : Option Nat) (fault : IoFault)
  deriving DecidableEq, Repr

/-- Whether a step puts up a lead with a newline in it. -/
def Step.breaksLead : Step → Bool
  | .ask (.call (.pushLead bytes _)) => bytes.contains newline
  | _ => false

/-- The writer after a step. -/
def take (writer : LineWriter) : Step → LineWriter
  | .ask request => (writer.respond request).2
  | .reset limit fault => (writer.reset { limit, fault }).2

namespace IsFinal

variable {writer : LineWriter}

/-- A step that brings no newline in a lead is kept with. -/
theorem take (hfinal : writer.IsFinal) {step : Step} (hstep : step.breaksLead = false) :
    (writer.take step).IsFinal := by
  cases step with
  | reset limit fault => exact isFinal_onto rfl
  | ask request =>
      cases request with
      | check => exact hfinal.check
      | call call =>
          cases call with
          | write bytes => exact hfinal.put bytes
          | writeText text => exact hfinal.put _
          | writeLine bytes => exact (hfinal.put bytes).flushLine
          | flushLine => exact hfinal.flushLine
          | endLine => exact hfinal.put [newline]
          | pushLead bytes lines =>
              exact hfinal.pushLead (by simpa [Step.breaksLead] using hstep) lines
          | popLead =>
              rw [LineWriter.take, respond, answer_snd]
              cases hpop : writer.call? .popLead with
              | none => exact hfinal
              | some next => exact hfinal.popLead? hpop

/-- So are any such steps. -/
theorem foldl_take (hfinal : writer.IsFinal) {steps : List Step}
    (hsteps : ∀ step ∈ steps, step.breaksLead = false) : (steps.foldl .take writer).IsFinal := by
  induction steps generalizing writer with
  | nil => exact hfinal
  | cons step steps ih =>
      obtain ⟨hstep, hsteps⟩ := List.forall_mem_cons.mp hsteps
      exact ih (hfinal.take hstep) hsteps

end IsFinal

end LineWriter

end MarkdownFormat
