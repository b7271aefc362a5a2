/-
# What a script writes

A line writer buffers, counts lines and keeps a stack of leads while it goes. What
arrives at the sink can be said without any of that, from the stream of bytes that
was fed: the stream is cut at its newlines, and each piece stands behind the leads
that were active when its newline was fed and that are meant for its line.

The reference here keeps the whole stream and reads everything off it. It knows no
buffer, no line count and no order of delivery. The main theorem says that a writer
over a sink without a limit does what the reference says, whatever the script.
-/

import MarkdownFormat.Proofs.Writer.Script

namespace MarkdownFormat

/-- A lead as it was pushed: the line it was pushed on, its bytes, and the lines it is
meant for, counted from there. -/
structure PushedLead where
  line : Nat
  bytes : Bytes
  lines : LeadLines
  deriving DecidableEq, Repr

namespace PushedLead

/-- Whether a lead is meant for a line. The end of a range counts from its start. -/
def covers (pushed : PushedLead) (line : Nat) : Bool :=
  match pushed.lines with
  | .all => pushed.line ≤ line
  | .starting start => pushed.line + start ≤ line
  | .between start count => pushed.line + start ≤ line ∧ line ≤ pushed.line + start + count

/-- The same lead as a writer keeps it. -/
def lead (pushed : PushedLead) : Lead :=
  Lead.pushedOn pushed.line pushed.bytes pushed.lines

@[simp]
theorem bytes_lead (pushed : PushedLead) : pushed.lead.bytes = pushed.bytes := by
  unfold lead
  cases pushed.lines <;> rfl

@[simp]
theorem appliesTo_lead (pushed : PushedLead) (line : Nat) :
    pushed.lead.appliesTo line = pushed.covers line := by
  unfold lead covers
  cases pushed.lines with
  | between start count => exact (Bool.decide_and _ _).symm
  | _ => exact Bool.and_true _

end PushedLead

/-- Everything that was fed to a writer. -/
structure Feed where
  /-- All bytes in order, each with the leads that were active when it was fed. -/
  stream : List (UInt8 × List PushedLead) := []
  /-- The leads that are active now, in the order in which they were pushed. -/
  active : List PushedLead := []
  deriving DecidableEq, Repr

namespace Feed

variable (feed : Feed)

/-- The bytes that were fed. -/
def bytes : Bytes :=
  feed.stream.map Prod.fst

/-- The pieces that a newline ends. -/
def pieces : List Bytes :=
  (feed.bytes.splitOn newline).dropLast

/-- The unfinished last piece. -/
def openPiece : Bytes :=
  (feed.bytes.splitOn newline).getLastD []

/-- The number of newlines. -/
def newlines : Nat :=
  feed.bytes.count newline

/-- The leads that were active at each newline. -/
def leadsAtNewlines : List (List PushedLead) :=
  (feed.stream.filter fun fed => fed.1 = newline).map Prod.snd

/-- The lines that belong in the sink: each piece behind the leads that were active at
its newline and are meant for its number, trimmed as a whole. -/
def lines : List Bytes :=
  (feed.pieces.zip feed.leadsAtNewlines).mapIdx fun number piece =>
    trimmedLine ((piece.2.filter (·.covers number)).flatMap PushedLead.bytes ++ piece.1) ++
      [newline]

/-- Feeds bytes. -/
def write (bytes : Bytes) : Feed :=
  { feed with stream := feed.stream ++ bytes.map fun byte => (byte, feed.active) }

/-- Feeds a newline unless the last piece is empty. -/
def flush : Feed :=
  if feed.openPiece = [] then feed else feed.write [newline]

/-- Takes in one call. -/
def take (feed : Feed) : WriterCall → Feed
  | .write bytes => feed.write bytes
  | .writeText text => feed.write (Utf8.ofString text)
  | .writeLine bytes => (feed.write bytes).flush
  | .flushLine => feed.flush
  | .endLine => feed.write [newline]
  | .pushLead bytes lines =>
      { feed with active := feed.active ++ [⟨feed.newlines, bytes, lines⟩] }
  | .popLead => { feed with active := feed.active.dropLast }

/-- All that a script feeds. -/
def ofScript (script : List WriterCall) : Feed :=
  script.foldl take {}

/-- The finished pieces are the lines of the stream. -/
theorem pieces_eq : feed.pieces = (splitLines feed.bytes).1 := by
  rw [pieces, splitOn_newline, List.dropLast_concat]

/-- The unfinished piece is what follows the last newline. -/
theorem openPiece_eq : feed.openPiece = (splitLines feed.bytes).2 := by
  simp [openPiece, splitOn_newline]

/-- So it holds no newline. -/
theorem newline_notMem_openPiece : newline ∉ feed.openPiece := by
  rw [openPiece_eq]
  exact newline_notMem_splitLines_snd _

@[simp]
theorem bytes_write (bytes : Bytes) : (feed.write bytes).bytes = feed.bytes ++ bytes := by
  simp [Feed.bytes, write, Function.comp_def]

@[simp]
theorem active_write (bytes : Bytes) : (feed.write bytes).active = feed.active := rfl

/-- A stream does not know how it was cut. -/
theorem write_append (first second : Bytes) :
    feed.write (first ++ second) = (feed.write first).write second := by
  simp [write]

/-- A byte that is no newline goes on the unfinished piece. -/
theorem openPiece_write_of_ne {byte : UInt8} (hbyte : byte ≠ newline) :
    (feed.write [byte]).openPiece = feed.openPiece ++ [byte] := by
  have hopen : newline ∉ (splitLines feed.bytes).2 ++ [byte] := by
    simp [newline_notMem_splitLines_snd, Ne.symm hbyte]
  rw [openPiece_eq, openPiece_eq, bytes_write, splitLines_append, splitLines_of_notMem hopen]

/-- It finishes no line. -/
theorem lines_write_of_ne {byte : UInt8} (hbyte : byte ≠ newline) :
    (feed.write [byte]).lines = feed.lines := by
  have hopen : newline ∉ (splitLines feed.bytes).2 ++ [byte] := by
    simp [newline_notMem_splitLines_snd, Ne.symm hbyte]
  have hpieces : (feed.write [byte]).pieces = feed.pieces := by
    rw [pieces_eq, pieces_eq, bytes_write, splitLines_append, splitLines_of_notMem hopen,
      List.append_nil]
  have hleads : (feed.write [byte]).leadsAtNewlines = feed.leadsAtNewlines := by
    simp [leadsAtNewlines, write, hbyte]
  rw [lines, lines, hpieces, hleads]

/-- Behind a newline nothing is unfinished. -/
theorem openPiece_write_newline : (feed.write [newline]).openPiece = [] := by
  rw [openPiece_eq, bytes_write, splitLines_append,
    splitLines_append_newline (newline_notMem_splitLines_snd _)]
  rfl

/-- The line that a newline would complete. -/
def nextLine : Bytes :=
  finished ((feed.active.filter (·.covers feed.newlines)).flatMap PushedLead.bytes ++
    feed.openPiece)

/-- A newline finishes one line. -/
theorem lines_write_newline :
    (feed.write [newline]).lines = feed.lines ++ [feed.nextLine] := by
  have hpieces : (feed.write [newline]).pieces = feed.pieces ++ [feed.openPiece] := by
    rw [pieces_eq, pieces_eq, openPiece_eq, bytes_write, splitLines_append,
      splitLines_append_newline (newline_notMem_splitLines_snd _)]
    rfl
  have hleads : (feed.write [newline]).leadsAtNewlines =
      feed.leadsAtNewlines ++ [feed.active] := by
    simp [leadsAtNewlines, write]
  have hcount : feed.pieces.length = feed.newlines := by
    rw [pieces_eq, length_splitLines_fst, newlines]
  have hlengths : feed.pieces.length = feed.leadsAtNewlines.length := by
    rw [hcount, newlines, bytes, leadsAtNewlines, List.length_map, List.count_eq_length_filter,
      List.filter_map, List.length_map]
    rfl
  rw [lines, lines, hpieces, hleads, List.zip_append hlengths]
  simp [nextLine, finished, ← hlengths, hcount, List.mapIdx_append]

end Feed

namespace LineWriter

/-- A writer that has done exactly what the reference says. -/
structure Follows (before : Sink) (feed : Feed) (writer : LineWriter) : Prop where
  free : writer.Free
  received : writer.sink.received.toList = before.received.toList ++ feed.lines
  buffer : writer.buffer = feed.openPiece
  line : writer.line = feed.newlines
  leads : writer.leads = (feed.active.map PushedLead.lead).reverse

/-- A new writer has been fed nothing. -/
theorem follows_onto {sink : Sink} (hlimit : sink.limit = none) :
    Follows sink {} (onto sink) :=
  ⟨onto_free hlimit, by simp [onto, Feed.lines, Feed.pieces, Feed.bytes], rfl, rfl, rfl⟩

namespace Follows

variable {before : Sink} {feed : Feed} {writer : LineWriter}

/-- The leads in front of a line are those that the reference puts there. -/
theorem leadBytes_eq (hfollows : Follows before feed writer) :
    leadBytes writer.leads writer.line =
      (feed.active.filter (·.covers feed.newlines)).flatMap PushedLead.bytes := by
  rw [leadBytes, hfollows.leads, hfollows.line, List.filter_reverse, List.reverse_reverse,
    List.filter_map, List.flatMap_map]
  simp [Function.comp_def]

/-- A writer delivers a line at a newline. -/
theorem put_newline (hfollows : Follows before feed writer) :
    Follows before (feed.write [newline]) (writer.put [newline]) := by
  have hopen : newline ∉ writer.buffer := by
    rw [hfollows.buffer]
    exact feed.newline_notMem_openPiece
  rw [hfollows.free.put_newline hopen, deliver_unlimited hfollows.free.unlimited]
  refine ⟨⟨hfollows.free.sound, hfollows.free.unlimited⟩, ?_, ?_, ?_, hfollows.leads⟩
  · simp [hfollows.received, feed.lines_write_newline, decorate, Feed.nextLine,
      hfollows.leadBytes_eq, hfollows.buffer]
  · exact feed.openPiece_write_newline.symm
  · simp [hfollows.line, Feed.newlines]

/-- A writer keeps any other byte. -/
theorem put_of_ne (hfollows : Follows before feed writer) {byte : UInt8}
    (hbyte : byte ≠ newline) :
    Follows before (feed.write [byte]) (writer.put [byte]) := by
  have hopen : newline ∉ writer.buffer := by
    rw [hfollows.buffer]
    exact feed.newline_notMem_openPiece
  rw [hfollows.free.put_of_notMem hopen (by simpa using Ne.symm hbyte)]
  refine ⟨⟨hfollows.free.sound, hfollows.free.unlimited⟩, ?_, ?_, ?_, hfollows.leads⟩
  · rw [feed.lines_write_of_ne hbyte]
    exact hfollows.received
  · rw [feed.openPiece_write_of_ne hbyte, ← hfollows.buffer]
  · simp [hfollows.line, Feed.newlines, hbyte]

/-- So a writer follows its stream, byte by byte. -/
theorem put (hfollows : Follows before feed writer) (bytes : Bytes) :
    Follows before (feed.write bytes) (writer.put bytes) := by
  induction bytes generalizing feed writer with
  | nil =>
      have hopen : newline ∉ writer.buffer := by
        rw [hfollows.buffer]
        exact feed.newline_notMem_openPiece
      rw [hfollows.free.put_of_notMem hopen (by simp)]
      simpa [Feed.write] using hfollows
  | cons byte bytes ih =>
      rw [← List.singleton_append, hfollows.free.put_append, feed.write_append]
      by_cases hbyte : byte = newline
      · subst hbyte
        exact ih hfollows.put_newline
      · exact ih (hfollows.put_of_ne hbyte)

/-- Flushing feeds a newline if something is unfinished. -/
theorem flushLine (hfollows : Follows before feed writer) :
    Follows before feed.flush writer.flushLine := by
  rw [LineWriter.flushLine, Feed.flush, hfollows.buffer]
  split
  · exact hfollows
  · exact hfollows.put [newline]

/-- Each call keeps a writer in step with the reference. -/
theorem call? (hfollows : Follows before feed writer) {call : WriterCall}
    {next : LineWriter} (hcall : writer.call? call = some next) :
    Follows before (feed.take call) next := by
  cases call with
  | write bytes =>
      cases hcall
      exact hfollows.put bytes
  | writeText text =>
      cases hcall
      exact hfollows.put _
  | writeLine bytes =>
      cases hcall
      exact (hfollows.put bytes).flushLine
  | flushLine =>
      cases hcall
      exact hfollows.flushLine
  | endLine =>
      cases hcall
      exact hfollows.put [newline]
  | pushLead bytes lines =>
      cases hcall
      refine ⟨⟨hfollows.free.sound, hfollows.free.unlimited⟩, hfollows.received,
        hfollows.buffer, hfollows.line, ?_⟩
      simp [pushLead, Feed.take, hfollows.leads, hfollows.line, PushedLead.lead]
  | popLead =>
      cases hleads : writer.leads with
      | nil => simp [LineWriter.call?, popLead?, hleads] at hcall
      | cons lead leads =>
          simp only [LineWriter.call?, popLead?, hleads, Option.some.injEq] at hcall
          subst hcall
          refine ⟨⟨hfollows.free.sound, hfollows.free.unlimited⟩, hfollows.received,
            hfollows.buffer, hfollows.line, ?_⟩
          have htail := congrArg List.tail (hleads.symm.trans hfollows.leads)
          simpa [Feed.take, List.map_dropLast] using htail

/-- Scripts keep a writer in step with the reference. -/
theorem run? (hfollows : Follows before feed writer) {script : List WriterCall}
    {last : LineWriter} (hrun : writer.run? script = some last) :
    Follows before (script.foldl Feed.take feed) last := by
  induction script generalizing feed writer with
  | nil =>
      cases hrun
      exact hfollows
  | cons call script ih =>
      obtain ⟨next, hcall, hrest⟩ := Option.bind_eq_some_iff.mp hrun
      exact ih (hfollows.call? hcall) hrest

end Follows

/-- Cutting a write in two changes nothing about the writer. -/
theorem Free.run?_write_append {writer : LineWriter} (hfree : writer.Free)
    (first second : Bytes) (script : List WriterCall) :
    writer.run? (.write (first ++ second) :: script) =
      writer.run? (.write first :: .write second :: script) := by
  simp [call?, write, hfree.put_append]

/-- Whatever calls are made on a new writer over a sink without a limit, as long as
no lead is taken away that is not there, the sink receives the lines of the fed stream.
The writer holds back the unfinished piece, has counted the newlines, and is the very
same however the data was cut into writes. Lines are numbered without a bound, as `Lead.pushedOn`
says. -/
theorem run?_onto_eq_reference {sink : Sink} (hlimit : sink.limit = none)
    {script : List WriterCall} (hdepth : (WriterCall.depthAfterAll 0 script).isSome) :
    ∃ writer, (onto sink).run? script = some writer ∧
      writer.sink.received.toList =
        sink.received.toList ++ (Feed.ofScript script).lines ∧
      writer.buffer = (Feed.ofScript script).openPiece ∧
      writer.line = (Feed.ofScript script).newlines ∧
      writer.isFailed = false ∧
      ∀ before first second after,
        script = before ++ .write first :: .write second :: after →
          (onto sink).run? (before ++ .write (first ++ second) :: after) = some writer := by
  obtain ⟨writer, hrun⟩ := (onto sink).exists_run? hdepth
  have hfollows := (follows_onto hlimit).run? hrun
  refine ⟨writer, hrun, hfollows.received, hfollows.buffer, hfollows.line,
    hfollows.free.isFailed, ?_⟩
  rintro before first second after rfl
  obtain ⟨middle, hbefore, hafter⟩ := run?_append_eq_some.mp hrun
  have hfree := ((follows_onto hlimit).run? hbefore).free
  rw [run?_append, hbefore, Option.bind_some, hfree.run?_write_append]
  exact hafter

/-- A script in which a line is half written when leads come and go, one write holds
several newlines, and a range starts below the line it is pushed on. -/
def interleavedScript : List WriterCall :=
  [.pushLead (Utf8.encode ['-', ' ']) (.between 0 0),
    .pushLead (Utf8.encode [' ', ' ']) (.starting 1),
    .write (Utf8.encode ['a', '\n', '\n', 'b', ' ']),
    .pushLead (Utf8.encode ['>', ' ']) .all, .popLead, .writeText "c\nd",
    .pushLead (Utf8.encode ['+']) (.between 1 0), .popLead, .popLead, .flushLine,
    .writeLine (Utf8.encode ['e', '\n']), .endLine, .write (Utf8.encode ['f'])]

/-- The lead that is taken away before its line ends is not on it, and neither is the one for a line
below. -/
theorem run?_onto_eq_reference_interleaved :
    Sink.unlimited.limit = none ∧
      (WriterCall.depthAfterAll 0 interleavedScript).isSome ∧
      ∃ writer, (onto .unlimited).run? interleavedScript = some writer ∧
        writer.sink.received.toList =
          [Utf8.encode ['-', ' ', 'a', '\n'], Utf8.encode ['\n'],
            Utf8.encode [' ', ' ', 'b', ' ', 'c', '\n'], Utf8.encode ['d', '\n'],
            Utf8.encode ['e', '\n'], Utf8.encode ['\n']] ∧
        writer.buffer = Utf8.encode ['f'] ∧ writer.line = 6 := by
  obtain ⟨writer, hrun, hreceived, hbuffer, hline, -⟩ :=
    run?_onto_eq_reference (rfl : Sink.unlimited.limit = none)
      (by decide : (WriterCall.depthAfterAll 0 interleavedScript).isSome)
  refine ⟨rfl, by decide, writer, hrun, hreceived.trans ?_, hbuffer.trans ?_, hline.trans ?_⟩
  · decide
  · decide
  · decide

end LineWriter

end MarkdownFormat
