/-
# Dialogues on a limited sink

A script of requests is run on a new writer over a sink that never fails, and on one
whose sink accepts so many lines and then fails. The two dialogues are the same, answers
and writers, up to the call that passes the limit. From that call on the limited sink
holds the lines up to the limit, and nothing that is asked later on changes it. The fault
of the sink is handed out once. A reset makes a new writer of any writer.
-/

import MarkdownFormat.Proofs.Writer.Dialogue

namespace MarkdownFormat.LineWriter

variable {limit : Nat} {fault : IoFault} {writer : LineWriter}

/-- The call that passes the limit: `writer` stands before it, over a sink without a limit,
and `failed` after it, over the sink with the limit. -/
structure FailsAt (limit : Nat) (fault : IoFault) (writer failed : LineWriter)
    (call : WriterCall) : Prop where
  /-- All lines before the call are within the limit. -/
  room : writer.sink.received.size ≤ limit
  /-- Some line of the call is past the limit. -/
  passes : limit < (writer.answer call).2.sink.received.size
  /-- A write that passes the limit takes nothing in. What `writeLine` has written before
  the line ending passes the limit has been taken in. -/
  answered : (writer.limited limit fault).answer call =
    (match call with
      | .write _ | .writeText _ => .taken 0
      | .writeLine bytes =>
        .taken (if (writer.put bytes).sink.received.size ≤ limit then bytes.length else 0)
      | .flushLine | .endLine | .pushLead _ _ | .popLead => .done, failed)
  /-- The sink holds the lines up to the limit. -/
  received : failed.sink.received.toList =
    (writer.answer call).2.sink.received.toList.take limit
  /-- Whatever is asked later on, the sink stays as it is. -/
  sink_stays : ∀ further : List WriterRequest, (failed.respondAll further).2.sink = failed.sink
  /-- The line count stands still. -/
  line_stays : ∀ further : List WriterRequest, (failed.respondAll further).2.line = limit
  /-- No later write takes anything in. -/
  takes_nothing : ∀ (further : List WriterRequest) (later : WriterCall) (answer : WriterAnswer),
    (.call later, answer) ∈ further.zip (failed.respondAll further).1 →
      later.bytes?.isSome → answer = .taken 0
  /-- The first check hands out the fault of the sink, and each later one fails again. -/
  results : ∀ further : List WriterRequest,
    (failed.respondAll further).1.filterMap WriterAnswer.result? =
      failedResults (some fault) (further.count .check)

/-- A call that passes the limit is answered by what it has taken in before. -/
theorem Free.answer_fst_of_passes (hfree : writer.Free)
    (hroom : writer.sink.received.size ≤ limit) {call : WriterCall}
    (hpasses : limit < (writer.answer call).2.sink.received.size) :
    ((writer.limited limit fault).answer call).1 =
      match call with
      | .write _ | .writeText _ => .taken 0
      | .writeLine bytes =>
        .taken (if (writer.put bytes).sink.received.size ≤ limit then bytes.length else 0)
      | .flushLine | .endLine | .pushLead _ _ | .popLead => .done := by
  rw [hfree.answer_fst_limited hroom]
  cases call with
  | write bytes => exact congrArg _ (if_neg (Nat.not_le_of_lt hpasses))
  | writeText text => exact congrArg _ (if_neg (Nat.not_le_of_lt hpasses))
  | writeLine | flushLine | endLine | pushLead => rfl
  | popLead =>
      cases hleads : writer.leads with
      | nil =>
          simp only [answer, popLead?, hleads] at hpasses
          exact absurd hroom (Nat.not_le_of_lt hpasses)
      | cons lead leads => simp [answer, popLead?, hleads, WriterCall.bytes?]

/-- A call that passes the limit fails, and whatever follows is answered as by a failed writer. -/
theorem Free.failsAt (hfree : writer.Free) (hcounts : writer.Counts)
    (hroom : writer.sink.received.size ≤ limit) {call : WriterCall}
    (hpasses : limit < (writer.answer call).2.sink.received.size) :
    FailsAt limit fault writer ((writer.limited limit fault).answer call).2 call := by
  have hcurbed : Curbed limit fault _ _ := hfree.curbed_answer hroom call
  have hhealth := hcurbed.failed_of_lt hpasses
  have hlimited : (writer.limited limit fault).Counts := hcounts
  have hcounted : ((writer.limited limit fault).answer call).2.Counts :=
    hlimited.respond (.call call)
  have hafter := respondAll_of_failed hhealth
  refine ⟨hroom, hpasses, Prod.ext (hfree.answer_fst_of_passes hroom hpasses) rfl,
    hcurbed.received, fun further => (hafter further).1, ?_,
    fun further => (hafter further).2.2.1, fun further => (hafter further).2.2.2⟩
  intro further
  have hsize := congrArg List.length hcurbed.received
  rw [List.length_take, Array.length_toList, Array.length_toList,
    Nat.min_eq_left (Nat.le_of_lt hpasses)] at hsize
  rw [hcounted.respondAll further, (hafter further).1, hsize]

/-- Over a sink that accepts `limit` lines and then fails, a script delivers the first
`limit` of the lines that it delivers over a sink that never fails. The two dialogues part
at the call that passes the limit, if there is one, and a reset makes a new writer of what
is left. -/
theorem respondAll_onto_limited (limit : Nat) (fault : IoFault) (script : List WriterRequest) :
    let full := (onto .unlimited).respondAll script
    let curbed := (onto { limit := some limit, fault }).respondAll script
    let lines := full.2.sink.received.toList
    curbed.2.sink.received.toList = lines.take (min limit lines.length) ∧
    curbed.2.line = min limit lines.length ∧
    (lines.length ≤ limit → curbed = (full.1, full.2.limited limit fault)) ∧
    (limit < lines.length → ∃ before call after failed,
      script = before ++ .call call :: after ∧
      (onto { limit := some limit, fault }).respondAll before =
        (((onto .unlimited).respondAll before).1,
          ((onto .unlimited).respondAll before).2.limited limit fault) ∧
      FailsAt limit fault ((onto .unlimited).respondAll before).2 failed call) ∧
    ∀ sink further, (curbed.2.reset sink).1 = curbed.2.sink ∧
      (curbed.2.reset sink).2.respondAll further = (onto sink).respondAll further := by
  intro full curbed lines
  have hfree : (onto .unlimited).Free := onto_free rfl
  have hcounts : ∀ sink : Sink, sink.received = #[] → (onto sink).Counts :=
    fun _ hempty => (congrArg Array.size hempty).symm
  have hcounted : curbed.2.Counts := (hcounts _ rfl).respondAll script
  have hagree : ∀ script : List WriterRequest,
      ((onto .unlimited).respondAll script).2.sink.received.size ≤ limit →
      (onto { limit := some limit, fault }).respondAll script =
        (((onto .unlimited).respondAll script).1,
          ((onto .unlimited).respondAll script).2.limited limit fault) :=
    fun script => hfree.respondAll_limited script
  by_cases hroom : full.2.sink.received.size ≤ limit
  · have hsame : curbed = (full.1, full.2.limited limit fault) := hagree script hroom
    have hlength : lines.length ≤ limit := by simpa [lines] using hroom
    have hreceived : curbed.2.sink.received.toList = lines := by rw [hsame]; rfl
    refine ⟨?_, ?_, fun _ => hsame, fun hpast => absurd hlength (Nat.not_le_of_lt hpast),
      fun _ _ => ⟨rfl, rfl⟩⟩
    · rw [hreceived, Nat.min_eq_right hlength, List.take_length]
    · rw [hcounted, ← Array.length_toList, hreceived, Nat.min_eq_right hlength]
  · have hpast : limit < full.2.sink.received.size := Nat.lt_of_not_le hroom
    have hlength : limit < lines.length := by simpa [lines] using hpast
    obtain ⟨before, call, after, hscript, hbefore, hpasses⟩ :=
      exists_passing script (Nat.zero_le limit) hpast
    have hfails : FailsAt limit fault _ _ call :=
      (hfree.respondAll before).1.failsAt
        ((hcounts _ rfl).respondAll before) hbefore hpasses
    have hcurbed : curbed.2 = (((((onto .unlimited).respondAll before).2.limited limit
        fault).answer call).2.respondAll after).2 := by
      show ((onto _).respondAll script).2 = _
      rw [hscript, respondAll_append, hagree before hbefore]
      rfl
    have hadded : (((onto .unlimited).respondAll before).2.answer call).2.sink.received.toList
        <+: lines := by
      show _ <+: ((onto .unlimited).respondAll script).2.sink.received.toList
      rw [hscript, respondAll_append]
      exact (((hfree.respondAll before).1.respond (.call call)).1.respondAll after).2
    refine ⟨?_, ?_, fun hroom => absurd hroom (Nat.not_le_of_lt hlength),
      fun _ => ⟨before, call, after, _, hscript, hagree before hbefore, hfails⟩,
      fun _ _ => ⟨rfl, rfl⟩⟩
    · obtain ⟨added, hadded⟩ := hadded
      rw [hcurbed, hfails.sink_stays, hfails.received, Nat.min_eq_left (Nat.le_of_lt hlength),
        ← hadded, List.take_append_of_le_length (by simpa using Nat.le_of_lt hpasses)]
    · rw [hcurbed, hfails.line_stays, Nat.min_eq_left (Nat.le_of_lt hlength)]

/-- The second of two lines written at once passes the limit. The fault is handed out at the
first check, and nothing is delivered after it. -/
theorem respondAll_onto_limited_quotedLines :
    let script : List WriterRequest :=
      [.call (.pushLead [0x3E, 0x20] .all), .call (.writeText "a\nb\nc"), .check,
        .call (.writeLine [0x64]), .check]
    let curbed := (onto { limit := some 1, fault := .nothingAccepted }).respondAll script
    curbed.2.sink.received.toList = [[0x3E, 0x20, 0x61, 0x0A]] ∧ curbed.2.line = 1 ∧
      ∃ before call after failed, script = before ++ .call call :: after ∧
        FailsAt 1 .nothingAccepted ((onto .unlimited).respondAll before).2 failed call := by
  intro script curbed
  obtain ⟨hreceived, hline, -, hfails, -⟩ := respondAll_onto_limited 1 .nothingAccepted script
  have hlines : ((onto .unlimited).respondAll script).2.sink.received.toList =
      [[0x3E, 0x20, 0x61, 0x0A], [0x3E, 0x20, 0x62, 0x0A], [0x3E, 0x20, 0x63, 0x64, 0x0A]] := by
    decide
  rw [hlines] at hreceived hline hfails
  obtain ⟨before, call, after, failed, hscript, -, hfails⟩ := hfails (by decide)
  exact ⟨hreceived, hline, before, call, after, failed, hscript, hfails⟩

end MarkdownFormat.LineWriter
