/-
# Sinks

A sink receives output one write at a time. It may have a limit on the number of
writes it accepts; each write past the limit fails in the same way. What was
accepted before stays. A write is accepted as a whole or not at all: there is no
sink here that takes the first bytes of a write and then fails.
-/

import MarkdownFormat.Text.Utf8

namespace MarkdownFormat

/-- Why output could not be delivered. -/
inductive IoFault
  /-- The sink reported an error of its own. -/
  | reported (message : String)
  /-- The sink accepted no bytes at all. -/
  | nothingAccepted
  /-- The sink failed before, and its error has been handed out. -/
  | alreadyFailed
  /-- The output was wanted as text and is not UTF-8. -/
  | notText (defect : Utf8.Defect)
  deriving DecidableEq, Repr

/-- The wording of an output error. -/
def IoFault.message : IoFault → String
  | .reported message => message
  | .nothingAccepted => "failed to write whole buffer"
  | .alreadyFailed => "output sink failed earlier"
  | .notText defect => defect.message

/-- A place to write to. -/
structure Sink where
  /-- The number of writes that are accepted; without a limit, all of them. -/
  limit : Option Nat := none
  /-- How a write past the limit fails. -/
  fault : IoFault := .nothingAccepted
  /-- The accepted writes, in order. -/
  received : Array Bytes := #[]
  deriving DecidableEq, Repr

namespace Sink

/-- A sink that accepts every write. -/
def unlimited : Sink := {}

/-- Everything that a sink holds. -/
def content (sink : Sink) : Bytes :=
  sink.received.toList.flatten

/-- Whether the next write is accepted. -/
def accepts (sink : Sink) : Bool :=
  match sink.limit with
  | some limit => sink.received.size < limit
  | none => true

/-- Adds one write, if it is accepted. -/
def write (sink : Sink) (bytes : Bytes) : Except IoFault Sink :=
  if sink.accepts then .ok { sink with received := sink.received.push bytes }
  else .error sink.fault

end Sink

end MarkdownFormat
