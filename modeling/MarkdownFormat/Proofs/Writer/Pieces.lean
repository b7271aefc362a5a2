/-
# Pieces of a byte string

A line writer cuts what it is given at the newlines: complete pieces become lines,
and what follows the last newline waits for more. The main statements here say that
cutting can be done bit by bit, and that a writer over a sink without a limit does
nothing but add the decorated pieces to the sink.
-/

import MarkdownFormat.LineWriter

namespace MarkdownFormat

/-- What is left over after cutting the front is cut together with the rest. -/
theorem splitLines_append (front rest : Bytes) :
    splitLines (front ++ rest) =
      ((splitLines front).1 ++ (splitLines ((splitLines front).2 ++ rest)).1,
        (splitLines ((splitLines front).2 ++ rest)).2) := by
  induction front with
  | nil => simp [splitLines]
  | cons byte front ih =>
      rcases hfront : splitLines front with ⟨_ | ⟨piece, pieces⟩, tail⟩ <;>
        rw [hfront] at ih <;>
        by_cases hnewline : byte = newline <;>
        simp [splitLines, hfront, ih, hnewline]

/-- The open piece holds no newline. -/
theorem newline_notMem_splitLines_snd (bytes : Bytes) :
    newline ∉ (splitLines bytes).2 := by
  induction bytes with
  | nil => simp [splitLines]
  | cons byte rest ih =>
      rcases hrest : splitLines rest with ⟨_ | ⟨piece, pieces⟩, tail⟩ <;>
        rw [hrest] at ih <;>
        by_cases hnewline : byte = newline <;>
        simp_all [splitLines, eq_comm]

/-- Neither does any complete piece. -/
theorem newline_notMem_splitLines_fst (bytes : Bytes) :
    ∀ piece ∈ (splitLines bytes).1, newline ∉ piece := by
  induction bytes with
  | nil => simp [splitLines]
  | cons byte rest ih =>
      rcases hrest : splitLines rest with ⟨_ | ⟨piece, pieces⟩, tail⟩ <;>
        rw [hrest] at ih <;>
        by_cases hnewline : byte = newline <;>
        simp_all [splitLines, eq_comm]

/-- Without a newline there is only the open piece. -/
theorem splitLines_of_notMem {bytes : Bytes} (hnone : newline ∉ bytes) :
    splitLines bytes = ([], bytes) := by
  induction bytes with
  | nil => rfl
  | cons byte rest ih =>
      rw [List.mem_cons, not_or] at hnone
      simp [splitLines, ih hnone.2, Ne.symm hnone.1]

/-- A newline completes the open piece. -/
theorem splitLines_append_newline {bytes : Bytes} (hnone : newline ∉ bytes) (rest : Bytes) :
    splitLines (bytes ++ newline :: rest) =
      (bytes :: (splitLines rest).1, (splitLines rest).2) := by
  induction bytes with
  | nil => simp [splitLines]
  | cons byte bytes ih =>
      rw [List.mem_cons, not_or] at hnone
      simp [splitLines, ih hnone.2, Ne.symm hnone.1]

/-- The complete pieces and the open one are what stands between the newlines. -/
theorem splitOn_newline (bytes : Bytes) :
    bytes.splitOn newline = (splitLines bytes).1 ++ [(splitLines bytes).2] := by
  induction bytes with
  | nil => rfl
  | cons byte rest ih =>
      rw [List.splitOn_cons_eq_if_modifyHead, ih]
      rcases hrest : splitLines rest with ⟨_ | ⟨piece, pieces⟩, tail⟩ <;>
        by_cases hnewline : byte = newline <;>
        simp [splitLines, hrest, hnewline]

/-- There is one complete piece for each newline. -/
theorem length_splitLines_fst (bytes : Bytes) :
    (splitLines bytes).1.length = bytes.count newline := by
  induction bytes with
  | nil => rfl
  | cons byte rest ih =>
      rcases hrest : splitLines rest with ⟨_ | ⟨piece, pieces⟩, tail⟩ <;>
        rw [hrest] at ih <;>
        by_cases hnewline : byte = newline <;>
        simp_all [splitLines]

/-- The bytes that leads put in front of a line. The latest lead is given first and
stands closest to the content. -/
def leadBytes (leads : List Lead) (line : Nat) : Bytes :=
  (leads.filter (·.appliesTo line)).reverse.flatMap Lead.bytes

/-- Consecutive lines, the first of them with the given number, behind their leads. -/
def decorate (leads : List Lead) (line : Nat) : List Bytes → List Bytes
  | [] => []
  | piece :: pieces => (leadBytes leads line ++ piece) :: decorate leads (line + 1) pieces

/-- A line as it arrives at the sink. -/
def finished (line : Bytes) : Bytes :=
  trimmedLine line ++ [newline]

/-- Finished lines are told apart by the newlines at their ends. -/
theorem splitLines_flatten_finished {lines : List Bytes}
    (hlines : ∀ line ∈ lines.map trimmedLine, newline ∉ line) :
    splitLines (lines.map finished).flatten = (lines.map trimmedLine, []) := by
  induction lines with
  | nil => rfl
  | cons line lines ih =>
      rw [List.map_cons] at hlines
      obtain ⟨hline, hlines⟩ := List.forall_mem_cons.mp hlines
      rw [List.map_cons, List.flatten_cons, finished, List.append_assoc, List.singleton_append,
        splitLines_append_newline hline, ih hlines, List.map_cons]

@[simp]
theorem decorate_nil (leads : List Lead) (line : Nat) : decorate leads line [] = [] := rfl

@[simp]
theorem length_decorate (leads : List Lead) (line : Nat) (pieces : List Bytes) :
    (decorate leads line pieces).length = pieces.length := by
  induction pieces generalizing line with
  | nil => rfl
  | cons piece pieces ih => simp [decorate, ih]

/-- Without leads, lines stand as they are. -/
@[simp]
theorem decorate_no_leads (line : Nat) (pieces : List Bytes) :
    decorate [] line pieces = pieces := by
  induction pieces generalizing line with
  | nil => rfl
  | cons piece pieces ih =>
      rw [decorate, ih]
      rfl

/-- Later pieces stand on later lines. -/
theorem decorate_append (leads : List Lead) (line : Nat) (first second : List Bytes) :
    decorate leads line (first ++ second) =
      decorate leads line first ++ decorate leads (line + first.length) second := by
  induction first generalizing line with
  | nil => rfl
  | cons piece first ih =>
      simp only [List.cons_append, decorate, ih, List.length_cons]
      rw [Nat.add_right_comm, Nat.add_assoc]

/-- The innermost lead can be put in front of the pieces beforehand. -/
theorem leadBytes_cons (lead : Lead) (leads : List Lead) (line : Nat) :
    leadBytes (lead :: leads) line =
      leadBytes leads line ++ if lead.appliesTo line then lead.bytes else [] := by
  by_cases happlies : lead.appliesTo line <;> simp [leadBytes, happlies]

namespace LineWriter

/-- A writer that delivers whatever it is given. -/
structure Free (writer : LineWriter) : Prop where
  sound : writer.health = .sound
  unlimited : writer.sink.limit = none

/-- A writer over a sink without a limit does not fail. -/
theorem Free.isFailed {writer : LineWriter} (hfree : writer.Free) :
    writer.isFailed = false := by
  simp [LineWriter.isFailed, hfree.sound]

/-- So it is from the beginning. -/
theorem onto_free {sink : Sink} (hlimit : sink.limit = none) : (onto sink).Free :=
  ⟨rfl, hlimit⟩

/-- Without a limit, delivering adds the decorated pieces to the sink and nothing
else happens. -/
theorem deliver_unlimited {writer : LineWriter} (hlimit : writer.sink.limit = none)
    (pieces : List Bytes) (tail : Bytes) :
    writer.deliver pieces tail =
      { writer with
        sink := { writer.sink with
          received := writer.sink.received ++
            ((decorate writer.leads writer.line pieces).map finished).toArray }
        line := writer.line + pieces.length
        buffer := tail } := by
  induction pieces generalizing writer with
  | nil => simp [deliver]
  | cons piece pieces ih =>
      have hwrite : writer.sink.write (writer.finishedLine piece) =
          .ok { writer.sink with
            received := writer.sink.received.push (writer.finishedLine piece) } := by
        simp [Sink.write, Sink.accepts, hlimit]
      simp only [deliver, hwrite]
      rw [ih (by exact hlimit)]
      simp [decorate, finished, finishedLine, currentLead, leadBytes, Nat.add_assoc,
        Nat.add_comm 1]

/-- Delivering does not change it. -/
theorem Free.deliver {writer : LineWriter} (hfree : writer.Free) (pieces : List Bytes)
    (tail : Bytes) : (writer.deliver pieces tail).Free := by
  rw [deliver_unlimited hfree.unlimited]
  exact ⟨hfree.sound, hfree.unlimited⟩

/-- Pieces can be delivered in portions. -/
theorem Free.deliver_append {writer : LineWriter} (hfree : writer.Free)
    (first second : List Bytes) (between tail : Bytes) :
    writer.deliver (first ++ second) tail =
      (writer.deliver first between).deliver second tail := by
  rw [deliver_unlimited (hfree.deliver first between).unlimited,
    deliver_unlimited hfree.unlimited, deliver_unlimited hfree.unlimited]
  simp [decorate_append, Nat.add_assoc]

/-- What is put is delivered up to the last newline. -/
theorem Free.put_eq_deliver {writer : LineWriter} (hfree : writer.Free) (bytes : Bytes) :
    writer.put bytes =
      writer.deliver (splitLines (writer.buffer ++ bytes)).1
        (splitLines (writer.buffer ++ bytes)).2 := by
  simp [put, hfree.isFailed]

/-- Putting does not change it. -/
theorem Free.put {writer : LineWriter} (hfree : writer.Free) (bytes : Bytes) :
    (writer.put bytes).Free := by
  rw [hfree.put_eq_deliver]
  exact hfree.deliver _ _

/-- Two writes are as good as one: what arrives does not depend on how it is cut. -/
theorem Free.put_append {writer : LineWriter} (hfree : writer.Free) (first second : Bytes) :
    writer.put (first ++ second) = (writer.put first).put second := by
  have hbuffer : (writer.put first).buffer = (splitLines (writer.buffer ++ first)).2 := by
    rw [hfree.put_eq_deliver, deliver_unlimited hfree.unlimited]
  rw [(hfree.put first).put_eq_deliver, hbuffer, hfree.put_eq_deliver first,
    ← hfree.deliver_append, hfree.put_eq_deliver, ← List.append_assoc, splitLines_append]

/-- A newline ends the line that is open. -/
theorem Free.put_newline {writer : LineWriter} (hfree : writer.Free)
    (hopen : newline ∉ writer.buffer) :
    writer.put [newline] = writer.deliver [writer.buffer] [] := by
  rw [hfree.put_eq_deliver, splitLines_append_newline hopen]
  rfl

/-- Without a newline, bytes only wait. -/
theorem Free.put_of_notMem {writer : LineWriter} (hfree : writer.Free) {bytes : Bytes}
    (hopen : newline ∉ writer.buffer) (hnone : newline ∉ bytes) :
    writer.put bytes = { writer with buffer := writer.buffer ++ bytes } := by
  rw [hfree.put_eq_deliver, splitLines_of_notMem (by simp [hopen, hnone])]
  rfl

end LineWriter

end MarkdownFormat
