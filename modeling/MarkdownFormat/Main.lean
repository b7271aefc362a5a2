/-
# The program

The command line program. It reads the files that its arguments name, decides what
to do with `Arguments.effect`, and does it.
-/

import MarkdownFormat.CommandLine.Run

namespace MarkdownFormat

/-- All bytes of a stream. -/
partial def readAll (stream : IO.FS.Stream) (start : ByteArray := .empty) : IO ByteArray := do
  let part ← stream.read 0x10000
  if part.isEmpty then pure start else readAll stream (start ++ part)

/-- A named file, if it can be read. -/
def readNamed (path : String) : IO (List (String × Bytes)) := do
  match ← (IO.FS.readBinFile path).toBaseIO with
  | .ok contents => pure [(path, contents.toList)]
  | .error _ => pure []

/-- What a run with the given arguments can see. -/
def worldOf (arguments : Arguments) : IO World := do
  let named := arguments.config.toList ++ (Arguments.named? arguments.input).toList
  let files ← named.flatMapM readNamed
  let stdin ← if (Arguments.named? arguments.input).isNone then readAll (← IO.getStdin)
    else pure .empty
  pure ⟨.ofList files, stdin.toList⟩

/-- Writes to standard output and standard error, and gives the exit code. -/
def report (outcome : Outcome) : IO UInt32 := do
  (← IO.getStdout).write ⟨outcome.stdout.toArray⟩
  outcome.stderr.forM IO.eprintln
  pure outcome.code.toUInt32

/-- Does what is left of a run. -/
def perform (world : World) : Effect → IO UInt32
  | .save path text => do
    match ← (IO.FS.writeBinFile path ⟨text.toArray⟩).toBaseIO with
    | .ok () => pure 0
    | .error error => report ((Failure.notWritten path (toString error)).outcome world)
  | effect => report (effect.outcome world)

end MarkdownFormat

open MarkdownFormat in
/-- Formats a Markdown file or standard input. -/
def main (words : List String) : IO UInt32 := do
  let environment ← IO.getEnv "CMARK_FMT_CONFIG"
  match Arguments.read words environment with
  | .error interruption =>
    report (interruption.outcome (Utf8.ofString (Arguments.help environment)) ⟨[], []⟩)
  | .ok arguments =>
    let world ← worldOf arguments
    match arguments.effect world with
    | .error failure => report (failure.outcome world)
    | .ok effect => perform world effect
