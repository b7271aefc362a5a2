/-
# Scripts on a limited sink

A sink with a limit accepts so many writes and fails the next. Here the same script is
run on two writers, one whose sink accepts everything and one whose sink has a limit.
Up to the limit they are the same but for their sinks. From the failing write on, the
limited sink holds the first lines of the other and stays as it is, the writer keeps
the fault of its sink, and only the number of leads still goes along.
-/

import MarkdownFormat.Proofs.Writer.Script

namespace MarkdownFormat.LineWriter

/-- The same writer over a sink that accepts only so many writes. -/
def limited (writer : LineWriter) (limit : Nat) (fault : IoFault) : LineWriter :=
  { writer with sink := { writer.sink with limit := some limit, fault } }

/-- How a writer over a limited sink stands beside one over a sink without a limit
after the same script. -/
inductive Curbed (limit : Nat) (fault : IoFault) : LineWriter → LineWriter → Prop
  /-- The limit has not been passed. -/
  | within {full : LineWriter} (hfree : full.Free)
      (hroom : full.sink.received.size ≤ limit) :
      Curbed limit fault full (full.limited limit fault)
  /-- A write has failed. -/
  | beyond {full curbed : LineWriter} (hfree : full.Free)
      (hpast : limit < full.sink.received.size)
      (hhealth : curbed.health = .failed (some fault))
      (hreceived : curbed.sink.received.toList = full.sink.received.toList.take limit)
      (hleads : curbed.leads.length = full.leads.length) :
      Curbed limit fault full curbed

/-- In the beginning the writers differ in the limit alone. -/
theorem curbed_onto (limit : Nat) (fault : IoFault) :
    Curbed limit fault (onto .unlimited) (onto { limit := some limit, fault }) :=
  .within (onto_free rfl) (Nat.zero_le _)

/-- Delivering without a limit only adds to what the sink holds. -/
theorem Free.received_deliver {writer : LineWriter} (hfree : writer.Free)
    (pieces : List Bytes) (tail : Bytes) :
    ∃ added : List Bytes, added.length = pieces.length ∧
      (writer.deliver pieces tail).sink.received.toList =
        writer.sink.received.toList ++ added := by
  rw [deliver_unlimited hfree.unlimited]
  exact ⟨(decorate writer.leads writer.line pieces).map finished, by simp, by simp⟩

/-- The two deliveries stay side by side, whether or not the limit falls between the
delivered lines. -/
theorem Free.deliver_curbed {limit : Nat} {fault : IoFault} {writer : LineWriter}
    (hfree : writer.Free) (hroom : writer.sink.received.size ≤ limit)
    (pieces : List Bytes) (tail : Bytes) :
    Curbed limit fault (writer.deliver pieces tail)
      ((writer.limited limit fault).deliver pieces tail) := by
  induction pieces generalizing writer with
  | nil => exact .within ⟨hfree.sound, hfree.unlimited⟩ hroom
  | cons piece pieces ih =>
      have hfull : writer.sink.write (writer.finishedLine piece) =
          .ok { writer.sink with
            received := writer.sink.received.push (writer.finishedLine piece) } := by
        simp [Sink.write, Sink.accepts, hfree.unlimited]
      by_cases haccepts : writer.sink.received.size < limit
      · have hlimited : (writer.limited limit fault).sink.write
            ((writer.limited limit fault).finishedLine piece) =
            .ok { writer.sink with
              limit := some limit
              fault := fault
              received := writer.sink.received.push (writer.finishedLine piece) } := by
          simp [Sink.write, Sink.accepts, limited, haccepts, finishedLine, currentLead]
        simp only [LineWriter.deliver, hfull, hlimited]
        refine @ih { writer with
            sink := { writer.sink with
              received := writer.sink.received.push (writer.finishedLine piece) }
            line := writer.line + 1 } ⟨hfree.sound, hfree.unlimited⟩ ?_
        simpa using Nat.succ_le_of_lt haccepts
      · have hlimited : (writer.limited limit fault).sink.write
            ((writer.limited limit fault).finishedLine piece) = .error fault := by
          simp [Sink.write, Sink.accepts, limited, haccepts]
        have hfilled : limit = writer.sink.received.size :=
          Nat.le_antisymm (Nat.le_of_not_lt haccepts) hroom
        obtain ⟨added, hlength, hadded⟩ := hfree.received_deliver (piece :: pieces) tail
        have hsize := congrArg List.length hadded
        refine .beyond (hfree.deliver _ _) ?_ ?_ ?_ ?_
        · simp only [Array.length_toList, List.length_append, List.length_cons] at hsize hlength
          omega
        · simp only [LineWriter.deliver, hlimited]
        · have hkept : ((writer.limited limit fault).deliver (piece :: pieces) tail).sink =
              (writer.limited limit fault).sink := by
            simp only [LineWriter.deliver, hlimited]
          rw [hkept, hadded, hfilled, ← Array.length_toList, List.take_left]
          rfl
        · rw [leads_deliver, leads_deliver]
          rfl

namespace Curbed

variable {limit : Nat} {fault : IoFault} {full curbed : LineWriter}

/-- The first of the writers is free. -/
theorem free (hcurbed : Curbed limit fault full curbed) : full.Free := by
  cases hcurbed <;> assumption

/-- Both may take bytes in. -/
theorem put (hcurbed : Curbed limit fault full curbed) (bytes : Bytes) :
    Curbed limit fault (full.put bytes) (curbed.put bytes) := by
  cases hcurbed with
  | within hfree hroom =>
      have hsound : (full.limited limit fault).isFailed = false := hfree.isFailed
      rw [hfree.put_eq_deliver, LineWriter.put, hsound]
      exact hfree.deliver_curbed hroom _ _
  | beyond hfree hpast hhealth hreceived hleads =>
      have hfailed : curbed.isFailed = true := by simp [isFailed, hhealth]
      rw [put_of_isFailed hfailed, hfree.put_eq_deliver]
      obtain ⟨added, -, hadded⟩ := hfree.received_deliver
        (splitLines (full.buffer ++ bytes)).1 (splitLines (full.buffer ++ bytes)).2
      have hsize := congrArg List.length hadded
      simp only [Array.length_toList, List.length_append] at hsize
      refine .beyond (hfree.deliver _ _) (by omega) hhealth ?_ ?_
      · rw [hreceived, hadded, List.take_append_of_le_length]
        simpa using Nat.le_of_lt hpast
      · rw [leads_deliver, hleads]

/-- Both may flush a line. -/
theorem flushLine (hcurbed : Curbed limit fault full curbed) :
    Curbed limit fault full.flushLine curbed.flushLine := by
  cases hcurbed with
  | within hfree hroom =>
      have hbuffer : (full.limited limit fault).buffer = full.buffer := rfl
      rw [LineWriter.flushLine, LineWriter.flushLine, hbuffer]
      split
      · exact .within hfree hroom
      · exact (Curbed.within hfree hroom).put [newline]
  | beyond hfree hpast hhealth hreceived hleads =>
      have hcurbed := Curbed.beyond hfree hpast hhealth hreceived hleads
      have hfailed : curbed.isFailed = true := by simp [isFailed, hhealth]
      rw [flushLine_of_isFailed hfailed, LineWriter.flushLine]
      split
      · exact hcurbed
      · simpa only [put_of_isFailed hfailed, endLine] using hcurbed.put [newline]

/-- Both may get a lead. -/
theorem pushLead (hcurbed : Curbed limit fault full curbed) (bytes : Bytes)
    (lines : LeadLines) :
    Curbed limit fault (full.pushLead bytes lines) (curbed.pushLead bytes lines) := by
  cases hcurbed with
  | within hfree hroom => exact .within ⟨hfree.sound, hfree.unlimited⟩ hroom
  | beyond hfree hpast hhealth hreceived hleads =>
      exact .beyond ⟨hfree.sound, hfree.unlimited⟩ hpast hhealth hreceived
        (congrArg Nat.succ hleads)

/-- If a lead can be taken away from one, it can from the other. -/
theorem popLead? (hcurbed : Curbed limit fault full curbed) {next : LineWriter}
    (hpop : full.popLead? = some next) :
    ∃ curbedNext, curbed.popLead? = some curbedNext ∧
      Curbed limit fault next curbedNext := by
  cases hfull : full.leads with
  | nil => simp [LineWriter.popLead?, hfull] at hpop
  | cons lead leads =>
      simp only [LineWriter.popLead?, hfull, Option.some.injEq] at hpop
      subst hpop
      cases hcurbed with
      | within hfree hroom =>
          refine ⟨{ full with leads }.limited limit fault, ?_, ?_⟩
          · simp [LineWriter.popLead?, limited, hfull]
          · have hnext : ({ full with leads } : LineWriter).Free :=
              ⟨hfree.sound, hfree.unlimited⟩
            exact .within hnext hroom
      | beyond hfree hpast hhealth hreceived hleads =>
          rw [hfull] at hleads
          obtain ⟨curbedLead, curbedLeads, hcurbedLeads⟩ :=
            List.exists_cons_of_length_eq_add_one hleads
          refine ⟨{ curbed with leads := curbedLeads }, ?_,
            .beyond ⟨hfree.sound, hfree.unlimited⟩ hpast hhealth hreceived ?_⟩
          · simp [LineWriter.popLead?, hcurbedLeads]
          · simpa [hcurbedLeads] using hleads

/-- Each call keeps the two writers side by side. -/
theorem call? (hcurbed : Curbed limit fault full curbed) {call : WriterCall}
    {next : LineWriter} (hcall : full.call? call = some next) :
    ∃ curbedNext, curbed.call? call = some curbedNext ∧
      Curbed limit fault next curbedNext := by
  cases call with
  | popLead => exact hcurbed.popLead? hcall
  | write bytes =>
      cases hcall
      exact ⟨_, rfl, hcurbed.put bytes⟩
  | writeText text =>
      cases hcall
      exact ⟨_, rfl, hcurbed.put _⟩
  | writeLine bytes =>
      cases hcall
      exact ⟨_, rfl, (hcurbed.put bytes).flushLine⟩
  | flushLine =>
      cases hcall
      exact ⟨_, rfl, hcurbed.flushLine⟩
  | endLine =>
      cases hcall
      exact ⟨_, rfl, hcurbed.put [newline]⟩
  | pushLead bytes lines =>
      cases hcall
      exact ⟨_, rfl, hcurbed.pushLead bytes lines⟩

/-- Scripts keep the two writers side by side. -/
theorem run? (hcurbed : Curbed limit fault full curbed) {script : List WriterCall}
    {last : LineWriter} (hrun : full.run? script = some last) :
    ∃ curbedLast, curbed.run? script = some curbedLast ∧
      Curbed limit fault last curbedLast := by
  induction script generalizing full curbed with
  | nil =>
      cases hrun
      exact ⟨curbed, rfl, hcurbed⟩
  | cons call script ih =>
      obtain ⟨next, hcall, hrest⟩ := Option.bind_eq_some_iff.mp hrun
      obtain ⟨curbedNext, hcurbedCall, hnext⟩ := hcurbed.call? hcall
      obtain ⟨curbedLast, hcurbedRest, hlast⟩ := ih hnext hrest
      refine ⟨curbedLast, ?_, hlast⟩
      rw [run?_cons, hcurbedCall, Option.bind_some, hcurbedRest]

/-- The limited sink holds the first lines of the other. -/
theorem received (hcurbed : Curbed limit fault full curbed) :
    curbed.sink.received.toList = full.sink.received.toList.take limit := by
  cases hcurbed with
  | within hfree hroom =>
      rw [List.take_of_length_le (by simpa using hroom)]
      rfl
  | beyond hfree hpast hhealth hreceived hleads => exact hreceived

/-- A writer within its limit is sound. -/
theorem sound_of_le (hcurbed : Curbed limit fault full curbed)
    (hroom : full.sink.received.size ≤ limit) : curbed.health = .sound := by
  cases hcurbed with
  | within hfree _ => exact hfree.sound
  | beyond hfree hpast => omega

/-- A writer past its limit keeps the fault of its sink. -/
theorem failed_of_lt (hcurbed : Curbed limit fault full curbed)
    (hpast : limit < full.sink.received.size) :
    curbed.health = .failed (some fault) := by
  cases hcurbed with
  | within hfree hroom => omega
  | beyond hfree _ hhealth => exact hhealth

end Curbed

end MarkdownFormat.LineWriter
