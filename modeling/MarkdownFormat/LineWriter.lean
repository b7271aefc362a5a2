/-
# Line writer

Block quotes and list items decorate every line of what they contain. The line
writer holds output back until a line is complete, puts the active decorations
in front of it, cuts trailing blanks and delivers it with a single write.

Decorations are called leads here. A lead is pushed together with the lines it is
meant for, counted from the current one, and stays until it is popped. After a
failed write nothing is delivered any more until the writer is reset.
-/

import MarkdownFormat.Sink
import MarkdownFormat.Text.Lines

namespace MarkdownFormat

/-- The lines that a lead is meant for, counted from the line it is pushed on. -/
inductive LeadLines
  /-- The current line and all later ones. -/
  | all
  /-- All lines from the one `start` lines below on. -/
  | starting (start : Nat)
  /-- The line `start` lines below and the `count` lines after it. -/
  | between (start count : Nat)
  deriving DecidableEq, Repr

/-- Bytes in front of some output lines. -/
structure Lead where
  bytes : Bytes
  /-- First line that the lead stands on. -/
  first : Nat
  /-- Last line that the lead stands on, if there is one. -/
  last : Option Nat
  deriving DecidableEq, Repr

namespace Lead

/-- The lead for the given lines, counted from line `line`. The sums are those of numbers without
a bound; with 64 bits they are the same as long as they are below `2 ^ 64`. A rendering only asks
for `.all`, `.starting 1` and `.between 0 0`, so that this bounds nothing but the lines. -/
def pushedOn (line : Nat) (bytes : Bytes) : LeadLines → Lead
  | .all => ⟨bytes, line, none⟩
  | .starting start => ⟨bytes, line + start, none⟩
  | .between start count => ⟨bytes, line + start, some (line + start + count)⟩

/-- Whether a lead stands on a line. -/
def appliesTo (lead : Lead) (line : Nat) : Bool :=
  lead.first ≤ line && match lead.last with
    | some last => line ≤ last
    | none => true

end Lead

/-- Whether a writer still delivers lines. -/
inductive Health
  | sound
  /-- A write failed. The error is kept until somebody asks for it. -/
  | failed (fault : Option IoFault)
  deriving DecidableEq, Repr

/-- A writer of complete, decorated lines. -/
structure LineWriter where
  sink : Sink
  /-- What has been written since the last line ending. -/
  buffer : Bytes := []
  /-- The active leads, the latest first. -/
  leads : List Lead := []
  /-- The number of lines delivered. -/
  line : Nat := 0
  health : Health := .sound
  deriving DecidableEq, Repr

namespace LineWriter

variable (writer : LineWriter)

/-- A new writer. -/
def onto (sink : Sink) : LineWriter :=
  { sink }

/-- Whether a write has failed. -/
def isFailed : Bool :=
  writer.health ≠ .sound

/-- The leads of the current line, in the order in which they were pushed. -/
def currentLead : Bytes :=
  (writer.leads.filter (·.appliesTo writer.line)).reverse.flatMap Lead.bytes

/-- The current line as it is delivered if it ends after the given bytes. -/
def finishedLine (piece : Bytes) : Bytes :=
  trimmedLine (writer.currentLead ++ piece) ++ [newline]

/-- Delivers lines, until one of them fails. What comes after the last delivered
or failed line is buffered. -/
def deliver (writer : LineWriter) : List Bytes → Bytes → LineWriter
  | [], tail => { writer with buffer := tail }
  | piece :: lines, tail =>
    match writer.sink.write (writer.finishedLine piece) with
    | .ok sink => deliver { writer with sink, line := writer.line + 1 } lines tail
    | .error fault =>
      { writer with buffer := joinLines lines tail, health := .failed (some fault) }

/-- Takes in bytes and delivers the lines they complete. -/
def put (bytes : Bytes) : LineWriter :=
  if writer.isFailed then writer
  else
    let (lines, tail) := splitLines (writer.buffer ++ bytes)
    writer.deliver lines tail

/-- Like `put`, and tells how many of the bytes were taken in: all or none. -/
def write (bytes : Bytes) : Nat × LineWriter :=
  let after := writer.put bytes
  (if after.isFailed then 0 else bytes.length, after)

/-- Ends the current line, an empty one too. -/
def endLine : LineWriter :=
  writer.put [newline]

/-- Ends the current line unless it is empty. -/
def flushLine : LineWriter :=
  if writer.buffer = [] then writer else writer.endLine

/-- Writes bytes and ends the line they leave open. -/
def writeLine (bytes : Bytes) : Nat × LineWriter :=
  let (count, after) := writer.write bytes
  (count, after.flushLine)

/-- Adds a lead for the given lines. -/
def pushLead (bytes : Bytes) (lines : LeadLines) : LineWriter :=
  { writer with leads := Lead.pushedOn writer.line bytes lines :: writer.leads }

/-- Removes the latest lead, if there is one. -/
def popLead? : Option LineWriter :=
  match writer.leads with
  | [] => none
  | _ :: leads => some { writer with leads }

/-- The error of a failed writer. The sink's own error is handed out once. -/
def check : Except IoFault Unit × LineWriter :=
  match writer.health with
  | .sound => (.ok (), writer)
  | .failed fault =>
    (.error (fault.getD .alreadyFailed), { writer with health := .failed none })

/-- Starts anew over another sink, and gives the old one back. What was buffered, the
leads and the error of the old sink are forgotten. -/
def reset (sink : Sink) : Sink × LineWriter :=
  (writer.sink, { writer with sink, buffer := [], leads := [], line := 0, health := .sound })

/-- The error that the next check hands out, if the sink's own is still there. -/
def pendingFault : Option IoFault :=
  match writer.health with
  | .sound => none
  | .failed fault => fault

end LineWriter

end MarkdownFormat
