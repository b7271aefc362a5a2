/-
# Scripts that write bytes or lines

Most of what is asked of a writer comes to very little. A script may do no more than
write some bytes into the current line, or no more than add whole lines, in front of
which a lead may stand. `Feeds` and `Emits` say so, for every writer that is in the
middle of a line or at the start of one. Leads that a script puts up and takes down
around its lines are as good as parts of the lines.
-/

import MarkdownFormat.Proofs.Writer.Script

namespace MarkdownFormat

/-- The lines that some bytes come to, without an empty one at the end. -/
def linesOf (bytes : Bytes) : List Bytes :=
  (splitLines bytes).1 ++ if (splitLines bytes).2 = [] then [] else [(splitLines bytes).2]

/-- Bytes without newlines stay in one piece. -/
theorem linesOf_of_notMem {bytes : Bytes} (hsome : bytes ≠ []) (hnone : newline ∉ bytes) :
    linesOf bytes = [bytes] := by
  rw [linesOf, splitLines_of_notMem hnone, if_neg hsome, List.nil_append]

/-- No line holds a newline. -/
theorem newline_notMem_linesOf (bytes : Bytes) : ∀ line ∈ linesOf bytes, newline ∉ line := by
  intro line hline
  rcases List.mem_append.mp hline with hpiece | hopen
  · exact newline_notMem_splitLines_fst bytes line hpiece
  · split at hopen
    · cases hopen
    · rw [List.mem_singleton.mp hopen]
      exact newline_notMem_splitLines_snd bytes

/-- Bytes before a newline are cut at newlines, whatever follows. -/
theorem linesOf_append_newline (front back : Bytes) :
    linesOf (front ++ newline :: back) = front.splitOn newline ++ linesOf back := by
  rw [linesOf, splitLines_append, splitLines_append_newline (newline_notMem_splitLines_snd front),
    splitOn_newline, linesOf]
  simp

/-- Lines behind something that stands before the first of them, and something else that
stands before the others. -/
def hang (first later : Bytes) : List Bytes → List Bytes
  | [] => []
  | line :: lines => (first ++ line) :: lines.map (later ++ ·)

/-- A lead that stands on all lines is as good as a part of each. -/
theorem decorate_cons_map {lead : Lead} (leads : List Lead) {line : Nat}
    (happlies : ∀ later, line ≤ later → lead.appliesTo later) (pieces : List Bytes) :
    decorate (lead :: leads) line pieces = decorate leads line (pieces.map (lead.bytes ++ ·)) := by
  induction pieces generalizing line with
  | nil => rfl
  | cons piece pieces ih =>
      have hrest := ih fun later hlater => happlies later (Nat.le_of_succ_le hlater)
      simp [decorate, leadBytes_cons, happlies line (Nat.le_refl _), hrest]

/-- A lead that stands on none is as good as none. -/
theorem decorate_cons_of_not {lead : Lead} (leads : List Lead) {line : Nat}
    (hignored : ∀ later, line ≤ later → lead.appliesTo later = false) (pieces : List Bytes) :
    decorate (lead :: leads) line pieces = decorate leads line pieces := by
  induction pieces generalizing line with
  | nil => rfl
  | cons piece pieces ih =>
      have hrest := ih fun later hlater => hignored later (Nat.le_of_succ_le hlater)
      simp [decorate, leadBytes_cons, hignored line (Nat.le_refl _), hrest]

/-- Of the two leads of an item, the first stands on the line they are put up on. -/
theorem leadBytes_item (leads : List Lead) (line : Nat) (first later : Bytes) :
    leadBytes (Lead.pushedOn line later (.starting 1) ::
      Lead.pushedOn line first (.between 0 0) :: leads) line = leadBytes leads line ++ first := by
  have hlater : (Lead.pushedOn line later (.starting 1)).appliesTo line = false := by
    rw [Lead.appliesTo, Lead.pushedOn, decide_eq_false (Nat.not_succ_le_self line),
      Bool.false_and]
  have hfirst : (Lead.pushedOn line first (.between 0 0)).appliesTo line := by
    simp [Lead.pushedOn, Lead.appliesTo]
  rw [leadBytes_cons, leadBytes_cons, hlater, if_pos hfirst]
  exact List.append_nil _

/-- The two leads of an item hang its lines. -/
theorem decorate_hang (leads : List Lead) (line : Nat) (first later : Bytes)
    (pieces : List Bytes) :
    decorate (Lead.pushedOn line later (.starting 1) ::
        Lead.pushedOn line first (.between 0 0) :: leads) line pieces =
      decorate leads line (hang first later pieces) := by
  cases pieces with
  | nil => rfl
  | cons piece pieces =>
      have hrest : decorate (Lead.pushedOn line later (.starting 1) ::
          Lead.pushedOn line first (.between 0 0) :: leads) (line + 1) pieces =
          decorate leads (line + 1) (pieces.map (later ++ ·)) := by
        rw [decorate_cons_map, decorate_cons_of_not]
        · rfl
        · intro other hother
          simp only [Lead.pushedOn, Lead.appliesTo, Bool.and_eq_false_iff, decide_eq_false_iff_not]
          omega
        · intro other hother
          simp [Lead.pushedOn, Lead.appliesTo, hother]
      simp only [decorate, hang, leadBytes_item, hrest, List.append_assoc]

/-- The script only writes the bytes. -/
def Feeds (script : List WriterCall) (bytes : Bytes) : Prop :=
  ∀ writer : LineWriter, writer.Free → newline ∉ writer.buffer →
    writer.run? script = some (writer.put bytes)

/-- The script only adds the lines, if no line is open before. -/
def Emits (script : List WriterCall) (lines : List Bytes) : Prop :=
  ∀ writer : LineWriter, writer.Free → writer.buffer = [] →
    writer.run? script = some (writer.deliver lines [])

namespace LineWriter

/-- What a writer keeps holds no newline. -/
theorem Free.newline_notMem_put {writer : LineWriter} (hfree : writer.Free) (bytes : Bytes) :
    newline ∉ (writer.put bytes).buffer := by
  rw [hfree.put_eq_deliver, deliver_unlimited hfree.unlimited]
  exact newline_notMem_splitLines_snd _

/-- Putting nothing does nothing. -/
theorem Free.put_nil {writer : LineWriter} (hfree : writer.Free)
    (hopen : newline ∉ writer.buffer) : writer.put [] = writer := by
  rw [hfree.put_of_notMem hopen List.not_mem_nil, List.append_nil]

/-- Bytes that start a line come to their lines once the last of them is ended. -/
theorem Free.flushLine_put {writer : LineWriter} (hfree : writer.Free)
    (hbuffer : writer.buffer = []) (bytes : Bytes) :
    (writer.put bytes).flushLine = writer.deliver (linesOf bytes) [] := by
  have hput : writer.put bytes =
      writer.deliver (splitLines bytes).1 (splitLines bytes).2 := by
    rw [hfree.put_eq_deliver, hbuffer, List.nil_append]
  have hopen : (writer.put bytes).buffer = (splitLines bytes).2 := by
    rw [hput, deliver_unlimited hfree.unlimited]
  rw [flushLine, linesOf, hopen]
  split
  · next hempty => rw [hput, hempty, List.append_nil]
  · rw [endLine, (hfree.put bytes).put_newline (hfree.newline_notMem_put bytes), hopen, hput,
      ← hfree.deliver_append]

end LineWriter

namespace Feeds

variable {first second : List WriterCall} {front rest : Bytes}

/-- No calls write nothing. -/
theorem nil : Feeds [] [] := by
  intro writer hfree hopen
  rw [hfree.put_nil hopen]
  rfl

/-- What is written comes one after the other. -/
theorem append (hfirst : Feeds first front) (hsecond : Feeds second rest) :
    Feeds (first ++ second) (front ++ rest) := by
  intro writer hfree hopen
  rw [LineWriter.run?_append, hfirst writer hfree hopen, Option.bind_some,
    hsecond _ (hfree.put front) (hfree.newline_notMem_put front), hfree.put_append]

/-- A write is what it writes. -/
theorem write (bytes : Bytes) : Feeds [.write bytes] bytes := fun _ _ _ => rfl

/-- Ending a line writes a newline. -/
theorem endLine : Feeds [.endLine] [newline] := fun _ _ _ => rfl

/-- Bytes and the end of their last line. -/
theorem flushLine {script : List WriterCall} {bytes : Bytes} (hscript : Feeds script bytes) :
    Emits (script ++ [.flushLine]) (linesOf bytes) := by
  intro writer hfree hbuffer
  have hopen : newline ∉ writer.buffer := by simp [hbuffer]
  rw [LineWriter.run?_append, hscript writer hfree hopen, Option.bind_some,
    ← hfree.flushLine_put hbuffer]
  rfl

end Feeds

namespace Emits

variable {script first second : List WriterCall} {lines front rest : List Bytes}

/-- No calls add no lines. -/
theorem nil : Emits [] [] := by
  intro writer hfree hbuffer
  rw [LineWriter.deliver, ← hbuffer]
  rfl

/-- Lines come one after the other. -/
theorem append (hfirst : Emits first front) (hsecond : Emits second rest) :
    Emits (first ++ second) (front ++ rest) := by
  intro writer hfree hbuffer
  have hempty : (writer.deliver front []).buffer = [] := by
    rw [LineWriter.deliver_unlimited hfree.unlimited]
  rw [LineWriter.run?_append, hfirst writer hfree hbuffer, Option.bind_some,
    hsecond _ (hfree.deliver front []) hempty, ← hfree.deliver_append]

/-- Between blocks there is nothing to flush. -/
theorem flushLine (hscript : Emits script lines) : Emits (script ++ [.flushLine]) lines := by
  rw [← List.append_nil lines]
  exact hscript.append (Feeds.nil.flushLine)

/-- Ending a line where one starts adds an empty one. -/
theorem endLine : Emits [.endLine] [[]] := by
  intro writer hfree hbuffer
  have hput := hfree.put_newline (by simp [hbuffer])
  rw [hbuffer] at hput
  exact congrArg some hput

/-- A lead that stands on all lines is part of them. -/
theorem quoted (hscript : Emits script lines) (bytes : Bytes) :
    Emits (.pushLead bytes .all :: (script ++ [.popLead])) (lines.map (bytes ++ ·)) := by
  intro writer hfree hbuffer
  have hpushed : (writer.pushLead bytes .all).Free := ⟨hfree.sound, hfree.unlimited⟩
  rw [LineWriter.run?_cons, LineWriter.call?, Option.bind_some, LineWriter.run?_append,
    hscript _ hpushed hbuffer, LineWriter.deliver_unlimited hpushed.unlimited,
    LineWriter.deliver_unlimited hfree.unlimited]
  simp only [LineWriter.pushLead, Lead.pushedOn]
  rw [decorate_cons_map _ (by simp [Lead.appliesTo])]
  simp [LineWriter.call?, LineWriter.popLead?]

/-- The leads of an item are parts of its lines. -/
theorem hung (hscript : Emits script lines) (head later : Bytes) :
    Emits (.pushLead head (.between 0 0) :: .pushLead later (.starting 1) ::
        (script ++ [.popLead, .popLead])) (hang head later lines) := by
  intro writer hfree hbuffer
  have hpushed : ((writer.pushLead head (.between 0 0)).pushLead later (.starting 1)).Free :=
    ⟨hfree.sound, hfree.unlimited⟩
  rw [LineWriter.run?_cons, LineWriter.call?, Option.bind_some, LineWriter.run?_cons,
    LineWriter.call?, Option.bind_some, LineWriter.run?_append, hscript _ hpushed hbuffer,
    LineWriter.deliver_unlimited hpushed.unlimited,
    LineWriter.deliver_unlimited hfree.unlimited]
  simp only [LineWriter.pushLead]
  rw [decorate_hang]
  have hlength : (hang head later lines).length = lines.length := by cases lines <;> simp [hang]
  simp [LineWriter.call?, LineWriter.popLead?, hlength]

end Emits

end MarkdownFormat
