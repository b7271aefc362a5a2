/-
# Writing behind earlier lines

What a writer does does not depend on how many lines were delivered before. A lead is
meant for lines counted from the one it is pushed on, so the same calls behind earlier
lines put the same leads on the same lines, further down by the number of earlier lines.
Every operation can be done before or after the earlier lines are put in front.
-/

import MarkdownFormat.LineWriter

namespace MarkdownFormat

/-- The lead on lines so much further down. -/
def Lead.below (lead : Lead) (count : Nat) : Lead :=
  { lead with first := lead.first + count, last := lead.last.map (· + count) }

/-- The sink with earlier writes in front, and room for them. -/
def Sink.after (sink : Sink) (earlier : Array Bytes) : Sink :=
  { sink with limit := sink.limit.map (· + earlier.size), received := earlier ++ sink.received }

/-- The writer with earlier lines in front. -/
def LineWriter.after (writer : LineWriter) (earlier : Array Bytes) : LineWriter :=
  { writer with
    sink := writer.sink.after earlier
    leads := writer.leads.map (·.below earlier.size)
    line := writer.line + earlier.size }

namespace Lead

variable (count : Nat)

/-- A lead further down stands on the lines further down. -/
theorem appliesTo_below (lead : Lead) (line : Nat) :
    (lead.below count).appliesTo (line + count) = lead.appliesTo line := by
  obtain ⟨bytes, first, last⟩ := lead
  cases last <;> simp [appliesTo, below]

/-- Pushing a lead later puts it further down. -/
theorem pushedOn_add (line : Nat) (bytes : Bytes) (lines : LeadLines) :
    pushedOn (line + count) bytes lines = (pushedOn line bytes lines).below count := by
  cases lines <;> simp [pushedOn, below] <;> omega

end Lead

namespace Sink

variable (earlier : Array Bytes)

/-- Earlier writes leave as much room as there was. -/
theorem accepts_after (sink : Sink) : (sink.after earlier).accepts = sink.accepts := by
  cases hlimit : sink.limit with
  | none => simp [accepts, after, hlimit]
  | some limit =>
      simp only [accepts, after, hlimit, Option.map_some, Array.size_append, decide_eq_decide]
      omega

/-- A write is put behind the earlier ones. -/
theorem write_after (sink : Sink) (bytes : Bytes) :
    (sink.after earlier).write bytes = (sink.write bytes).map (·.after earlier) := by
  rw [write, write, accepts_after]
  split
  · simp [after, Except.map]
  · rfl

end Sink

namespace LineWriter

variable (writer : LineWriter) (earlier : Array Bytes)

/-- A finished line has the same leads, further down. -/
theorem finishedLine_after (piece : Bytes) :
    (writer.after earlier).finishedLine piece = writer.finishedLine piece := by
  have hlead : (writer.after earlier).currentLead = writer.currentLead := by
    have happlies : (fun lead : Lead => lead.appliesTo (writer.line + earlier.size)) ∘
        (fun lead : Lead => lead.below earlier.size) = fun lead => lead.appliesTo writer.line :=
      funext fun lead => lead.appliesTo_below earlier.size writer.line
    simp only [currentLead, after, List.filter_map, ← List.map_reverse, List.flatMap_map,
      happlies]
    rfl
  rw [finishedLine, finishedLine, hlead]

/-- Lines are delivered behind the earlier ones. -/
theorem deliver_after (pieces : List Bytes) (tail : Bytes) :
    (writer.after earlier).deliver pieces tail = (writer.deliver pieces tail).after earlier := by
  induction pieces generalizing writer with
  | nil => rfl
  | cons piece pieces ih =>
      have hwrite : (writer.after earlier).sink.write ((writer.after earlier).finishedLine piece) =
          (writer.sink.write (writer.finishedLine piece)).map (·.after earlier) := by
        rw [finishedLine_after]
        exact writer.sink.write_after earlier _
      rw [deliver, deliver, hwrite]
      cases writer.sink.write (writer.finishedLine piece) with
      | error fault => rfl
      | ok sink =>
          have hnext : ({ writer.after earlier with
                sink := sink.after earlier
                line := (writer.after earlier).line + 1 } : LineWriter) =
              ({ writer with sink, line := writer.line + 1 } : LineWriter).after earlier := by
            simp [after, Nat.add_right_comm]
          show deliver { writer.after earlier with
              sink := sink.after earlier
              line := (writer.after earlier).line + 1 } pieces tail = _
          rw [hnext]
          exact ih _

/-- Bytes are taken in behind the earlier lines. -/
theorem put_after (bytes : Bytes) :
    (writer.after earlier).put bytes = (writer.put bytes).after earlier := by
  have hfailed : (writer.after earlier).isFailed = writer.isFailed := rfl
  have hbuffer : (writer.after earlier).buffer = writer.buffer := rfl
  rw [put, put, hfailed, hbuffer]
  split
  · rfl
  · exact writer.deliver_after earlier _ _

/-- A line is ended behind the earlier ones. -/
theorem flushLine_after :
    (writer.after earlier).flushLine = writer.flushLine.after earlier := by
  have hbuffer : (writer.after earlier).buffer = writer.buffer := rfl
  rw [flushLine, flushLine, hbuffer]
  split
  · rfl
  · exact writer.put_after earlier [newline]

/-- A lead is pushed on a line that much further down. -/
theorem pushLead_after (bytes : Bytes) (lines : LeadLines) :
    (writer.after earlier).pushLead bytes lines = (writer.pushLead bytes lines).after earlier := by
  simp [pushLead, after, Lead.pushedOn_add]

/-- The lead that is taken away is the same one further down. -/
theorem popLead?_after :
    (writer.after earlier).popLead? = writer.popLead?.map (·.after earlier) := by
  cases hleads : writer.leads <;> simp [popLead?, after, hleads]

/-- A check tells the same. -/
theorem check_after :
    (writer.after earlier).check = writer.check.map id (·.after earlier) := by
  have hhealth : (writer.after earlier).health = writer.health := rfl
  rw [check, check, hhealth]
  cases writer.health <;> rfl

/-- A new writer behind earlier lines, and more of them in front. -/
theorem after_after_onto (first second : Array Bytes) :
    ((onto .unlimited).after second).after first = (onto .unlimited).after (first ++ second) := by
  simp [after, onto, Sink.after, Sink.unlimited, Nat.add_comm]

end LineWriter

end MarkdownFormat
