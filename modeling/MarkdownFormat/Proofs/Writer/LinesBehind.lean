/-
# Lines behind leads

A writer that goes through a script delivers some lines, or none. Whatever the script does
above the leads that it finds, these stand in front of all the lines that it delivers.
-/

import MarkdownFormat.Proofs.Writer.Script

namespace MarkdownFormat

/-- Lower leads stand before upper ones. -/
theorem leadBytes_append (upper lower : List Lead) (line : Nat) :
    leadBytes (upper ++ lower) line = leadBytes lower line ++ leadBytes upper line := by
  rw [leadBytes, leadBytes, leadBytes, List.filter_append, List.reverse_append,
    List.flatMap_append]

/-- What the later leads put in front of lines stands behind the earlier ones. -/
theorem decorate_append_leads (upper lower : List Lead) (line : Nat) (pieces : List Bytes) :
    decorate (upper ++ lower) line pieces = decorate lower line (decorate upper line pieces) := by
  induction pieces generalizing line with
  | nil => rfl
  | cons piece pieces ih =>
      rw [decorate, decorate, decorate, ih, leadBytes_append, List.append_assoc]

namespace LineWriter

/-- What was delivered between two writers: some pieces, all behind the given leads. -/
structure Brings (leads : List Lead) (before after : LineWriter) (pieces : List Bytes) :
    Prop where
  received : after.sink.received.toList =
    before.sink.received.toList ++ (decorate leads before.line pieces).map finished
  line_eq : after.line = before.line + pieces.length

namespace Brings

variable {leads : List Lead} {before middle after : LineWriter} {pieces later : List Bytes}

/-- Nothing is delivered where neither the sink nor the count of lines changes. -/
theorem nothing (leads : List Lead) (hsink : after.sink = before.sink)
    (hline : after.line = before.line) : Brings leads before after [] :=
  ⟨by rw [hsink]; exact (List.append_nil _).symm, hline⟩

/-- Lines come one after the other. -/
theorem trans (hfirst : Brings leads before middle pieces)
    (hsecond : Brings leads middle after later) : Brings leads before after (pieces ++ later) where
  received := by
    rw [hsecond.received, hfirst.received, hfirst.line_eq, decorate_append, List.map_append,
      List.append_assoc]
  line_eq := by rw [hsecond.line_eq, hfirst.line_eq, List.length_append, Nat.add_assoc]

end Brings

variable {writer next last : LineWriter} {upper lower : List Lead}

/-- Putting bytes delivers lines behind the leads below. -/
theorem Free.exists_brings_put (hfree : writer.Free) (hleads : writer.leads = upper ++ lower)
    (bytes : Bytes) : ∃ pieces, Brings lower writer (writer.put bytes) pieces := by
  rw [hfree.put_eq_deliver, deliver_unlimited hfree.unlimited]
  refine ⟨decorate upper writer.line (splitLines (writer.buffer ++ bytes)).1, ?_, ?_⟩
  · rw [hleads, decorate_append_leads]
    exact Array.toList_append
  · rw [length_decorate]

/-- So does flushing a line. -/
theorem Free.exists_brings_flushLine (hfree : writer.Free)
    (hleads : writer.leads = upper ++ lower) :
    writer.flushLine.Free ∧ ∃ pieces, Brings lower writer writer.flushLine pieces := by
  rw [LineWriter.flushLine]
  split
  · exact ⟨hfree, [], .nothing _ rfl rfl⟩
  · exact ⟨hfree.put _, hfree.exists_brings_put hleads _⟩

/-- One call delivers lines behind the leads that it does not take away. -/
theorem Free.exists_brings_call? {call : WriterCall} {depth : Nat} (hfree : writer.Free)
    (hleads : writer.leads = upper ++ lower)
    (hdepth : WriterCall.depthAfter upper.length call = some depth)
    (hcall : writer.call? call = some next) :
    next.Free ∧ ∃ pieces, Brings lower writer next pieces := by
  cases call with
  | write bytes =>
      cases hcall
      exact ⟨hfree.put _, hfree.exists_brings_put hleads _⟩
  | writeText text =>
      cases hcall
      exact ⟨hfree.put _, hfree.exists_brings_put hleads _⟩
  | writeLine bytes =>
      cases hcall
      obtain ⟨pieces, hpieces⟩ := hfree.exists_brings_put hleads bytes
      have hput : (writer.put bytes).leads = upper ++ lower := (leads_put _ _).trans hleads
      obtain ⟨hflushed, later, hlater⟩ := (hfree.put bytes).exists_brings_flushLine hput
      exact ⟨hflushed, pieces ++ later, hpieces.trans hlater⟩
  | flushLine =>
      cases hcall
      exact hfree.exists_brings_flushLine hleads
  | endLine =>
      cases hcall
      exact ⟨hfree.put _, hfree.exists_brings_put hleads _⟩
  | pushLead bytes lines =>
      cases hcall
      exact ⟨⟨hfree.sound, hfree.unlimited⟩, [], .nothing _ rfl rfl⟩
  | popLead =>
      cases upper with
      | nil => simp [WriterCall.depthAfter] at hdepth
      | cons lead upper =>
          simp only [call?, popLead?, hleads, List.cons_append, Option.some.injEq] at hcall
          rw [← hcall]
          exact ⟨⟨hfree.sound, hfree.unlimited⟩, [], .nothing _ rfl rfl⟩

/-- A script delivers lines behind the leads that it does not take away. -/
theorem Free.exists_brings_run? {script : List WriterCall} {depth : Nat} (hfree : writer.Free)
    (hleads : writer.leads = upper ++ lower)
    (hdepth : WriterCall.depthAfterAll upper.length script = some depth)
    (hrun : writer.run? script = some last) :
    last.Free ∧ ∃ pieces, Brings lower writer last pieces := by
  induction script generalizing writer upper with
  | nil =>
      cases hrun
      exact ⟨hfree, [], .nothing _ rfl rfl⟩
  | cons call script ih =>
      obtain ⟨next, hcall, hrest⟩ := Option.bind_eq_some_iff.mp hrun
      obtain ⟨middle, hmiddle, hdepths⟩ := Option.bind_eq_some_iff.mp hdepth
      obtain ⟨rest, hnext, rfl⟩ := exists_leads_call? hleads hmiddle hcall
      obtain ⟨hnextFree, pieces, hpieces⟩ := hfree.exists_brings_call? hleads hmiddle hcall
      obtain ⟨hlastFree, later, hlater⟩ := ih hnextFree hnext hdepths hrest
      exact ⟨hlastFree, pieces ++ later, hpieces.trans hlater⟩

/-- A script that takes away the leads it puts there goes through, and delivers lines behind
the leads that it finds. -/
theorem Free.exists_brings_of_level {script : List WriterCall} (hfree : writer.Free)
    (hlevel : WriterCall.Level script) :
    ∃ last pieces, writer.run? script = some last ∧ last.Free ∧ last.leads = writer.leads ∧
      Brings writer.leads writer last pieces := by
  obtain ⟨last, hrun⟩ := writer.exists_run? (Option.isSome_iff_exists.mpr ⟨_, hlevel _⟩)
  have hleads : writer.leads = [] ++ writer.leads := rfl
  obtain ⟨hlast, pieces, hpieces⟩ := hfree.exists_brings_run? hleads (hlevel 0) hrun
  obtain ⟨rest, hrest, hnone⟩ := exists_leads_run? hleads (hlevel 0) hrun
  rw [List.length_eq_zero_iff.mp hnone] at hrest
  exact ⟨last, pieces, hrun, hlast, hrest, hpieces⟩

end LineWriter

end MarkdownFormat
