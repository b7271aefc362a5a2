/-
# Source segments and values

The content of a node is usually a piece of the source, given by byte offsets,
so that it can be written back exactly as it was spelled. Content that was never
in the source is carried along as text of its own.
-/

import MarkdownFormat.Text.Utf8

namespace MarkdownFormat

/-- A half-open range of source bytes. -/
structure Segment where
  /-- First byte. -/
  start : Nat
  /-- One past the last byte. -/
  stop : Nat
  deriving DecidableEq, Repr

namespace Segment

/-- Number of bytes between the two offsets, none if they are reversed. -/
def length (segment : Segment) : Nat :=
  segment.stop - segment.start

/-- The source bytes of a segment, as far as the source has them. -/
def bytes (source : Bytes) (segment : Segment) : Bytes :=
  (source.drop segment.start).take segment.length

/-- The same segment with another start. -/
def withStart (segment : Segment) (start : Nat) : Segment :=
  { segment with start }

/-- The same segment with another stop. -/
def withStop (segment : Segment) (stop : Nat) : Segment :=
  { segment with stop }

end Segment

/-- Content of a node. -/
inductive Value
  /-- A piece of the source. -/
  | source (segment : Segment)
  /-- Text that need not occur in the source. -/
  | owned (text : String)
  deriving DecidableEq, Repr

namespace Value

/-- No content. -/
def empty : Value :=
  .owned ""

/-- The bytes of a value, given the source that its segment refers to. -/
def bytes (source : Bytes) : Value → Bytes
  | .source segment => segment.bytes source
  | .owned text => Utf8.ofString text

/-- The segment of a value that comes from the source. -/
def segment? : Value → Option Segment
  | .source segment => some segment
  | .owned _ => none

end Value

end MarkdownFormat
