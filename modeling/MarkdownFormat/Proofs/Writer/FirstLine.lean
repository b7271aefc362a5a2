/-
# The first line that is delivered

A writer that goes through a script delivers some lines, or none. Whatever the script does
above the leads that it finds, the first of these lines has them in front, those that stand
on the line that was open when the script began.
-/

import MarkdownFormat.Proofs.Writer.LinesBehind

namespace MarkdownFormat

namespace LineWriter

/-- What was delivered between two writers: some lines, of which the first has the given bytes
in front. -/
structure Delivers (front : Bytes) (before after : LineWriter) (lines : List Bytes) : Prop where
  received : after.sink.received.toList = before.sink.received.toList ++ lines
  line_eq : after.line = before.line + lines.length
  first : ∀ line ∈ lines.head?, ∃ rest, line = finished (front ++ rest)

namespace Delivers

variable {front next : Bytes} {before middle after : LineWriter} {lines later : List Bytes}

/-- As long as no line has been delivered, the same bytes are to stand in front. -/
theorem trans (hfirst : Delivers front before middle lines)
    (hsecond : Delivers next middle after later)
    (hsame : middle.line = before.line → next = front) :
    Delivers front before after (lines ++ later) where
  received := by rw [hsecond.received, hfirst.received, List.append_assoc]
  line_eq := by rw [hsecond.line_eq, hfirst.line_eq, List.length_append, Nat.add_assoc]
  first := by
    cases lines with
    | nil =>
        rw [← hsame hfirst.line_eq]
        exact hsecond.first
    | cons line rest => exact hfirst.first

/-- Without a line that was delivered, the sink is as before. -/
theorem eq_nil_iff (hdelivers : Delivers front before after lines) :
    lines = [] ↔ after.sink.received = before.sink.received := by
  rw [← Array.toList_inj, hdelivers.received, List.append_right_eq_self]

end Delivers

/-- The first of the lines behind some leads has them in front. -/
theorem Brings.delivers {leads : List Lead} {before after : LineWriter} {pieces : List Bytes}
    (hbrings : Brings leads before after pieces) :
    Delivers (leadBytes leads before.line) before after
      ((decorate leads before.line pieces).map finished) where
  received := hbrings.received
  line_eq := by rw [hbrings.line_eq, List.length_map, length_decorate]
  first := by
    cases pieces with
    | nil => nofun
    | cons piece pieces =>
        rintro _ ⟨⟩
        exact ⟨piece, rfl⟩

variable {writer : LineWriter} {upper lower : List Lead}

/-- Putting bytes delivers lines, the first of them behind the leads below. -/
theorem Free.exists_delivers_put (hfree : writer.Free) (hleads : writer.leads = upper ++ lower)
    (bytes : Bytes) :
    ∃ lines, Delivers (leadBytes lower writer.line) writer (writer.put bytes) lines := by
  obtain ⟨pieces, hpieces⟩ := hfree.exists_brings_put hleads bytes
  exact ⟨_, hpieces.delivers⟩

/-- So does flushing a line, at most one. -/
theorem Free.exists_delivers_flushLine (hfree : writer.Free)
    (hleads : writer.leads = upper ++ lower) :
    writer.flushLine.Free ∧
      ∃ lines, Delivers (leadBytes lower writer.line) writer writer.flushLine lines := by
  obtain ⟨hflushed, pieces, hpieces⟩ := hfree.exists_brings_flushLine hleads
  exact ⟨hflushed, _, hpieces.delivers⟩

/-- Ending a line delivers at least that one. -/
theorem Free.line_lt_endLine (hfree : writer.Free) : writer.line < writer.endLine.line := by
  rw [endLine, hfree.put_eq_deliver, deliver_unlimited hfree.unlimited, length_splitLines_fst,
    List.count_append]
  exact Nat.lt_add_of_pos_right (Nat.add_pos_right _ Nat.one_pos)

end LineWriter

end MarkdownFormat
