/-
# Dialogues with a line writer

Besides doing what it is asked, a writer answers: how many bytes it took in, and
whether its sink has failed. A dialogue is a script of such requests together with
the answers to them.

A failed writer goes on answering, always in the same way. Over a sink with a limit a
dialogue is the same as without one until a call passes the limit.
-/

import MarkdownFormat.Proofs.Writer.Limit

namespace MarkdownFormat

/-- What a writer is asked: to do something, or whether its sink has failed. -/
inductive WriterRequest
  | call (call : WriterCall)
  | check
  deriving DecidableEq, Repr

/-- What a writer answers. -/
inductive WriterAnswer
  /-- It was done, and there is nothing to tell. -/
  | done
  /-- So many bytes were taken in. -/
  | taken (count : Nat)
  /-- There was no lead to take away. -/
  | refused
  | checked (result : Except IoFault Unit)

/-- The result of a check. -/
def WriterAnswer.result? : WriterAnswer → Option (Except IoFault Unit)
  | .checked result => some result
  | _ => none

/-- The bytes that a call brings. -/
def WriterCall.bytes? : WriterCall → Option Bytes
  | .write bytes | .writeLine bytes => some bytes
  | .writeText text => some (Utf8.ofString text)
  | .flushLine | .endLine | .pushLead _ _ | .popLead => none

namespace LineWriter

/-- What a writer answers to a call, and the writer afterwards. A lead that is not there
is not taken away. -/
def answer (writer : LineWriter) : WriterCall → WriterAnswer × LineWriter
  | .write bytes => ((writer.write bytes).map .taken id)
  | .writeText text => ((writer.write (Utf8.ofString text)).map .taken id)
  | .writeLine bytes => ((writer.writeLine bytes).map .taken id)
  | .flushLine => (.done, writer.flushLine)
  | .endLine => (.done, writer.endLine)
  | .pushLead bytes lines => (.done, writer.pushLead bytes lines)
  | .popLead =>
    match writer.popLead? with
    | some after => (.done, after)
    | none => (.refused, writer)

/-- What a writer answers to a request, and the writer afterwards. -/
def respond (writer : LineWriter) : WriterRequest → WriterAnswer × LineWriter
  | .call call => writer.answer call
  | .check => writer.check.map .checked id

/-- The answers to a script of requests, and the writer in the end. -/
def respondAll (writer : LineWriter) : List WriterRequest → List WriterAnswer × LineWriter
  | [] => ([], writer)
  | request :: rest =>
    let (first, next) := writer.respond request
    let (later, last) := next.respondAll rest
    (first :: later, last)

/-- A dialogue can be parted anywhere. -/
theorem respondAll_append (writer : LineWriter) (first second : List WriterRequest) :
    writer.respondAll (first ++ second) =
      ((writer.respondAll first).1 ++ ((writer.respondAll first).2.respondAll second).1,
        ((writer.respondAll first).2.respondAll second).2) := by
  induction first generalizing writer with
  | nil => rfl
  | cons request first ih => simp [respondAll, ih]

/-- An answered call does what the call does, if it goes through. -/
theorem answer_snd (writer : LineWriter) (call : WriterCall) :
    (writer.answer call).2 = (writer.call? call).getD writer := by
  cases call with
  | popLead => cases hpop : writer.popLead? <;> simp [answer, call?, hpop]
  | _ => rfl

/-- The line count is the number of lines that the sink has received. -/
def Counts (writer : LineWriter) : Prop :=
  writer.line = writer.sink.received.size

namespace Counts

variable {writer : LineWriter}

/-- What is delivered is counted. -/
theorem deliver (hcounts : writer.Counts) (pieces : List Bytes) (tail : Bytes) :
    (writer.deliver pieces tail).Counts := by
  induction pieces generalizing writer with
  | nil => exact hcounts
  | cons piece pieces ih =>
      rw [LineWriter.deliver]
      by_cases haccepts : writer.sink.accepts
      · simp only [Sink.write, haccepts]
        apply ih
        show writer.line + 1 = (writer.sink.received.push _).size
        rw [Array.size_push, hcounts]
      · simp only [Sink.write, haccepts]
        exact hcounts

/-- So it is when bytes are put. -/
theorem put (hcounts : writer.Counts) (bytes : Bytes) : (writer.put bytes).Counts := by
  rw [LineWriter.put]
  split
  · exact hcounts
  · exact hcounts.deliver _ _

/-- So it is when a line is flushed. -/
theorem flushLine (hcounts : writer.Counts) : writer.flushLine.Counts := by
  rw [LineWriter.flushLine]
  split
  · exact hcounts
  · exact hcounts.put [newline]

/-- So it is whatever is asked for. -/
theorem respond (hcounts : writer.Counts) (request : WriterRequest) :
    (writer.respond request).2.Counts := by
  cases request with
  | check =>
      simp only [LineWriter.respond, check]
      split <;> exact hcounts
  | call call =>
      cases call with
      | write bytes => exact hcounts.put bytes
      | writeText text => exact hcounts.put _
      | writeLine bytes => exact (hcounts.put bytes).flushLine
      | flushLine => exact hcounts.flushLine
      | endLine => exact hcounts.put [newline]
      | pushLead bytes lines => exact hcounts
      | popLead =>
          simp only [LineWriter.respond, answer, popLead?]
          cases writer.leads <;> exact hcounts

/-- So it is in a whole dialogue. -/
theorem respondAll (hcounts : writer.Counts) (script : List WriterRequest) :
    (writer.respondAll script).2.Counts := by
  induction script generalizing writer with
  | nil => exact hcounts
  | cons request rest ih => exact ih (hcounts.respond request)

end Counts

/-- What the checks of a failed writer give, one after the other. -/
def failedResults (fault : Option IoFault) : Nat → List (Except IoFault Unit)
  | 0 => []
  | count + 1 =>
    .error (fault.getD .alreadyFailed) :: List.replicate count (.error .alreadyFailed)

/-- The first check gets the fault, and the later ones get told of it. -/
theorem failedResults_succ (fault : Option IoFault) (count : Nat) :
    failedResults fault (count + 1) =
      .error (fault.getD .alreadyFailed) :: failedResults none count := by
  cases count <;> rfl

/-- A failed writer takes nothing in. -/
theorem answer_fst_of_isFailed {writer : LineWriter} (hfailed : writer.isFailed = true)
    {call : WriterCall} (hbytes : call.bytes?.isSome) :
    (writer.answer call).1 = .taken 0 := by
  have hzero : ∀ bytes, (writer.write bytes).1 = 0 := by
    intro bytes
    rw [write, put_of_isFailed hfailed]
    exact if_pos hfailed
  cases call with
  | write bytes => exact congrArg _ (hzero bytes)
  | writeText text => exact congrArg _ (hzero _)
  | writeLine bytes => exact congrArg _ (hzero bytes)
  | flushLine | endLine | pushLead | popLead => cases hbytes

/-- A call does nothing to the sink of a failed writer, and keeps its fault. -/
theorem answer_snd_of_isFailed {writer : LineWriter} (hfailed : writer.isFailed = true)
    (call : WriterCall) :
    (writer.answer call).2.sink = writer.sink ∧
      (writer.answer call).2.health = writer.health := by
  rw [answer_snd]
  cases hcall : writer.call? call with
  | none => exact ⟨rfl, rfl⟩
  | some next => exact call?_of_isFailed hfailed hcall

/-- Whatever a failed writer is asked, its sink stays as it is. It takes nothing in, and
its checks hand out the fault that it keeps first and fail ever after. -/
theorem respondAll_of_failed {writer : LineWriter} {fault : Option IoFault}
    (hhealth : writer.health = .failed fault) (script : List WriterRequest) :
    (writer.respondAll script).2.sink = writer.sink ∧
      (writer.respondAll script).2.isFailed = true ∧
      (∀ call answer, (.call call, answer) ∈ script.zip (writer.respondAll script).1 →
        call.bytes?.isSome → answer = .taken 0) ∧
      (writer.respondAll script).1.filterMap WriterAnswer.result? =
        failedResults fault (script.count .check) := by
  have hfailed : writer.isFailed = true := by simp [isFailed, hhealth]
  induction script generalizing writer fault with
  | nil => exact ⟨rfl, hfailed, by simp, rfl⟩
  | cons request rest ih =>
      cases request with
      | check =>
          have hrespond : writer.respond .check =
              (.checked (.error (fault.getD .alreadyFailed)),
                { writer with health := .failed none }) := by
            simp [respond, check, hhealth]
          obtain ⟨hsink, hlast, hzero, hresults⟩ :=
            @ih { writer with health := .failed none } none rfl rfl
          rw [respondAll, hrespond]
          refine ⟨hsink, hlast, ?_, ?_⟩
          · intro call answer hmem
            rcases List.mem_cons.mp hmem with heq | hmem
            · cases heq
            · exact hzero call answer hmem
          · simp [WriterAnswer.result?, hresults, failedResults_succ]
      | call call =>
          obtain ⟨hsame, hkept⟩ := answer_snd_of_isFailed hfailed call
          obtain ⟨hsink, hlast, hzero, hresults⟩ :=
            ih (hkept.trans hhealth) ((isFailed_congr hkept).trans hfailed)
          refine ⟨hsink.trans hsame, hlast, ?_, ?_⟩
          · intro other answer hmem hbytes
            rcases List.mem_cons.mp hmem with heq | hmem
            · cases heq
              exact answer_fst_of_isFailed hfailed hbytes
            · exact hzero other answer hmem hbytes
          · have hanswer : (writer.answer call).1.result? = none := by
              cases call with
              | popLead => cases hpop : writer.popLead? <;> simp [answer, hpop, WriterAnswer.result?]
              | _ => rfl
            simp [respondAll, respond, hanswer, hresults]

section Limit

variable {limit : Nat} {fault : IoFault} {writer : LineWriter}

/-- Up to the limit, the writers differ in the limit alone. -/
theorem Curbed.eq_limited {full curbed : LineWriter} (hcurbed : Curbed limit fault full curbed)
    (hroom : full.sink.received.size ≤ limit) : curbed = full.limited limit fault := by
  cases hcurbed with
  | within => rfl
  | beyond _ hpast => exact absurd hroom (Nat.not_le_of_lt hpast)

/-- A sink that accepts everything keeps what it has. -/
theorem Free.prefix_put (hfree : writer.Free) (bytes : Bytes) :
    writer.sink.received.toList <+: (writer.put bytes).sink.received.toList := by
  rw [hfree.put_eq_deliver]
  obtain ⟨added, -, hadded⟩ := hfree.received_deliver
    (splitLines (writer.buffer ++ bytes)).1 (splitLines (writer.buffer ++ bytes)).2
  exact ⟨added, hadded.symm⟩

/-- A free writer stays free. -/
theorem Free.flushLine (hfree : writer.Free) : writer.flushLine.Free := by
  rw [LineWriter.flushLine]
  split
  · exact hfree
  · exact hfree.put [newline]

/-- What was delivered stays delivered. -/
theorem Free.prefix_flushLine (hfree : writer.Free) :
    writer.sink.received.toList <+: writer.flushLine.sink.received.toList := by
  rw [LineWriter.flushLine]
  split
  · exact List.prefix_rfl
  · exact hfree.prefix_put [newline]

/-- Both hold for whatever is asked for. -/
theorem Free.respond (hfree : writer.Free) (request : WriterRequest) :
    (writer.respond request).2.Free ∧
      writer.sink.received.toList <+: (writer.respond request).2.sink.received.toList := by
  have hsame : ∀ leads, ({ writer with leads } : LineWriter).Free := fun _ =>
    ⟨hfree.sound, hfree.unlimited⟩
  cases request with
  | check =>
      simp only [LineWriter.respond, check, hfree.sound]
      exact ⟨hfree, List.prefix_rfl⟩
  | call call =>
      cases call with
      | write bytes => exact ⟨hfree.put bytes, hfree.prefix_put bytes⟩
      | writeText text => exact ⟨hfree.put _, hfree.prefix_put _⟩
      | writeLine bytes =>
          exact ⟨(hfree.put bytes).flushLine,
            (hfree.prefix_put bytes).trans (hfree.put bytes).prefix_flushLine⟩
      | flushLine => exact ⟨hfree.flushLine, hfree.prefix_flushLine⟩
      | endLine => exact ⟨hfree.put [newline], hfree.prefix_put [newline]⟩
      | pushLead bytes lines => exact ⟨hsame _, List.prefix_rfl⟩
      | popLead =>
          simp only [LineWriter.respond, answer, popLead?]
          cases writer.leads with
          | nil => exact ⟨hfree, List.prefix_rfl⟩
          | cons lead leads => exact ⟨hsame leads, List.prefix_rfl⟩

/-- Both hold for a whole dialogue. -/
theorem Free.respondAll (hfree : writer.Free) (script : List WriterRequest) :
    (writer.respondAll script).2.Free ∧
      writer.sink.received.toList <+: (writer.respondAll script).2.sink.received.toList := by
  induction script generalizing writer with
  | nil => exact ⟨hfree, List.prefix_rfl⟩
  | cons request rest ih =>
      obtain ⟨hnext, hfirst⟩ := hfree.respond request
      obtain ⟨hlast, hrest⟩ := ih hnext
      exact ⟨hlast, hfirst.trans hrest⟩

/-- A write over a limited sink takes all bytes in, or none if it passes the limit. -/
theorem Free.write_fst_limited (hfree : writer.Free) (hroom : writer.sink.received.size ≤ limit)
    (bytes : Bytes) :
    ((writer.limited limit fault).write bytes).1 =
      if (writer.put bytes).sink.received.size ≤ limit then bytes.length else 0 := by
  have hcurbed : Curbed limit fault _ ((writer.limited limit fault).put bytes) :=
    (Curbed.within hfree hroom).put bytes
  by_cases hsize : (writer.put bytes).sink.received.size ≤ limit
  · simp [LineWriter.write, LineWriter.isFailed, hcurbed.sound_of_le hsize, hsize]
  · simp [LineWriter.write, LineWriter.isFailed, hcurbed.failed_of_lt (Nat.lt_of_not_le hsize),
      hsize]

/-- Beside each call on a writer, the same call over a limited sink. -/
theorem Free.curbed_answer (hfree : writer.Free) (hroom : writer.sink.received.size ≤ limit)
    (call : WriterCall) :
    Curbed limit fault (writer.answer call).2 ((writer.limited limit fault).answer call).2 := by
  have hboth : Curbed limit fault writer (writer.limited limit fault) := .within hfree hroom
  rw [answer_snd, answer_snd]
  cases hcall : writer.call? call with
  | some next =>
      obtain ⟨curbed, hcurbed, hnext⟩ := hboth.call? hcall
      rw [hcurbed]
      exact hnext
  | none =>
      have hlimited : (writer.limited limit fault).call? call = none := by
        cases call with
        | popLead => cases hleads : writer.leads <;> simp_all [call?, popLead?, limited]
        | _ => cases hcall
      rw [hlimited]
      exact hboth

/-- A call over a limited sink is answered as without a limit, except that none of its bytes
are taken in if their write passes the limit. -/
theorem Free.answer_fst_limited (hfree : writer.Free)
    (hroom : writer.sink.received.size ≤ limit) (call : WriterCall) :
    ((writer.limited limit fault).answer call).1 =
      match call.bytes? with
      | some bytes =>
        .taken (if (writer.put bytes).sink.received.size ≤ limit then bytes.length else 0)
      | none => (writer.answer call).1 := by
  have htaken := @Free.write_fst_limited limit fault writer hfree hroom
  cases call with
  | write bytes => exact congrArg WriterAnswer.taken (htaken bytes)
  | writeText text => exact congrArg WriterAnswer.taken (htaken _)
  | writeLine bytes => exact congrArg WriterAnswer.taken (htaken bytes)
  | flushLine | endLine | pushLead => rfl
  | popLead =>
      cases hleads : writer.leads <;> simp [answer, popLead?, limited, hleads, WriterCall.bytes?]

/-- A free writer takes in all that it is given. -/
theorem Free.answer_fst (hfree : writer.Free) {call : WriterCall} {bytes : Bytes}
    (hbytes : call.bytes? = some bytes) : (writer.answer call).1 = .taken bytes.length := by
  have htaken : ∀ bytes, (writer.write bytes).1 = bytes.length := by
    intro bytes
    simp [LineWriter.write, (hfree.put bytes).isFailed]
  cases call with
  | write | writeText | writeLine =>
      cases hbytes
      exact congrArg WriterAnswer.taken (htaken _)
  | flushLine | endLine | pushLead | popLead => cases hbytes

/-- Whatever a call does besides, the bytes that it brings are written. -/
theorem Free.prefix_answer (hfree : writer.Free) {call : WriterCall} {bytes : Bytes}
    (hbytes : call.bytes? = some bytes) :
    (writer.put bytes).sink.received.toList <+:
      (writer.answer call).2.sink.received.toList := by
  cases call with
  | write | writeText =>
      cases hbytes
      exact List.prefix_rfl
  | writeLine =>
      cases hbytes
      exact (hfree.put bytes).prefix_flushLine
  | flushLine | endLine | pushLead | popLead => cases hbytes

/-- Delivering more makes for more lines. -/
theorem size_le_of_extends {first second : LineWriter}
    (hextends : first.sink.received.toList <+: second.sink.received.toList) :
    first.sink.received.size ≤ second.sink.received.size := by
  simpa using hextends.length_le

/-- A request that stays within the limit is answered as without one. -/
theorem Free.respond_limited (hfree : writer.Free) (request : WriterRequest)
    (hroom : (writer.respond request).2.sink.received.size ≤ limit) :
    (writer.limited limit fault).respond request =
      ((writer.respond request).1, (writer.respond request).2.limited limit fault) := by
  have hbefore := Nat.le_trans (size_le_of_extends (hfree.respond request).2) hroom
  cases request with
  | check => simp [LineWriter.respond, check, limited, hfree.sound]
  | call call =>
      have hcurbed : Curbed limit fault _ _ := hfree.curbed_answer hbefore call
      have hsame := hcurbed.eq_limited hroom
      refine Prod.ext ?_ hsame
      show ((writer.limited limit fault).answer call).1 = (writer.answer call).1
      rw [hfree.answer_fst_limited hbefore]
      cases hbytes : call.bytes? with
      | none => rfl
      | some bytes =>
          have hput := size_le_of_extends (hfree.prefix_answer hbytes)
          rw [hfree.answer_fst hbytes]
          simp [Nat.le_trans hput hroom]

/-- A dialogue that stays within the limit is the same as without one. -/
theorem Free.respondAll_limited (hfree : writer.Free) (script : List WriterRequest)
    (hroom : (writer.respondAll script).2.sink.received.size ≤ limit) :
    (writer.limited limit fault).respondAll script =
      ((writer.respondAll script).1, (writer.respondAll script).2.limited limit fault) := by
  induction script generalizing writer with
  | nil => rfl
  | cons request rest ih =>
      obtain ⟨hnext, -⟩ := hfree.respond request
      have hbetween := Nat.le_trans (size_le_of_extends (hnext.respondAll rest).2) hroom
      simp only [LineWriter.respondAll, hfree.respond_limited request hbetween, ih hnext hroom]

/-- If a dialogue passes the limit, one call in it does so first. -/
theorem exists_passing (script : List WriterRequest) (hroom : writer.sink.received.size ≤ limit)
    (hpast : limit < (writer.respondAll script).2.sink.received.size) :
    ∃ before call after, script = before ++ .call call :: after ∧
      (writer.respondAll before).2.sink.received.size ≤ limit ∧
      limit < ((writer.respondAll before).2.answer call).2.sink.received.size := by
  induction script generalizing writer with
  | nil => exact absurd hroom (Nat.not_le_of_lt hpast)
  | cons request rest ih =>
      by_cases hnext : (writer.respond request).2.sink.received.size ≤ limit
      · obtain ⟨before, call, after, rfl, hbefore, hcall⟩ := ih hnext hpast
        exact ⟨request :: before, call, after, rfl, hbefore, hcall⟩
      · cases request with
        | call call => exact ⟨[], call, rest, rfl, hroom, Nat.lt_of_not_le hnext⟩
        | check =>
            have hsame : (writer.respond .check).2.sink = writer.sink := by
              simp only [respond, check]
              cases writer.health <;> rfl
            rw [hsame] at hnext
            exact absurd hroom hnext

end Limit

end LineWriter

end MarkdownFormat
