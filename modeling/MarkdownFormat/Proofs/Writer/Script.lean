/-
# Scripts

A script is a sequence of calls on a line writer. Scripts stand between those who
write and the writer: what a rendering asks for is a script, and what a script does
to a writer can be said without knowing who wrote it.

A call can only go wrong by taking away a lead that is not there. Whether that
happens depends on the number of leads alone. A failed writer goes through the rest
of its script without doing anything to its sink.
-/

import MarkdownFormat.Proofs.Writer.Pieces

namespace MarkdownFormat

/-- What can be asked of a line writer. -/
inductive WriterCall
  | write (bytes : Bytes)
  | writeText (text : String)
  | writeLine (bytes : Bytes)
  | flushLine
  | endLine
  | pushLead (bytes : Bytes) (lines : LeadLines)
  | popLead
  deriving DecidableEq, Repr

namespace WriterCall

/-- The number of leads after a call; `none` if there is no lead to take away. -/
def depthAfter (depth : Nat) : WriterCall → Option Nat
  | .pushLead _ _ => some (depth + 1)
  | .popLead => if depth = 0 then none else some (depth - 1)
  | _ => some depth

/-- The number of leads after a script; `none` if more are taken away than were put
there. -/
def depthAfterAll (depth : Nat) (script : List WriterCall) : Option Nat :=
  script.foldlM depthAfter depth

@[simp]
theorem depthAfterAll_nil (depth : Nat) : depthAfterAll depth [] = some depth := rfl

@[simp]
theorem depthAfterAll_cons (depth : Nat) (call : WriterCall) (script : List WriterCall) :
    depthAfterAll depth (call :: script) =
      (depthAfter depth call).bind fun next => depthAfterAll next script := rfl

@[simp]
theorem depthAfterAll_append (depth : Nat) (first second : List WriterCall) :
    depthAfterAll depth (first ++ second) =
      (depthAfterAll depth first).bind fun next => depthAfterAll next second := by
  rw [depthAfterAll, List.foldlM_append]
  rfl

/-- A script that takes away exactly the leads it puts there. -/
def Level (script : List WriterCall) : Prop :=
  ∀ depth, depthAfterAll depth script = some depth

/-- No calls do not touch the leads. -/
theorem level_nil : Level [] := fun _ => rfl

/-- Two level scripts are level one after the other. -/
theorem Level.append {first second : List WriterCall} (hfirst : Level first)
    (hsecond : Level second) : Level (first ++ second) := by
  intro depth
  rw [depthAfterAll_append, hfirst depth, Option.bind_some, hsecond depth]

end WriterCall

namespace LineWriter

/-- The writer after a call; `none` if there is no lead to take away. -/
def call? (writer : LineWriter) : WriterCall → Option LineWriter
  | .write bytes => some (writer.write bytes).2
  | .writeText text => some (writer.write (Utf8.ofString text)).2
  | .writeLine bytes => some (writer.writeLine bytes).2
  | .flushLine => some writer.flushLine
  | .endLine => some writer.endLine
  | .pushLead bytes lines => some (writer.pushLead bytes lines)
  | .popLead => writer.popLead?

/-- The writer after a script. -/
def run? (writer : LineWriter) (script : List WriterCall) : Option LineWriter :=
  script.foldlM call? writer

@[simp]
theorem run?_nil (writer : LineWriter) : writer.run? [] = some writer := rfl

@[simp]
theorem run?_cons (writer : LineWriter) (call : WriterCall) (script : List WriterCall) :
    writer.run? (call :: script) = (writer.call? call).bind (·.run? script) := rfl

/-- Running two scripts is running one after the other. -/
theorem run?_append (writer : LineWriter) (first second : List WriterCall) :
    writer.run? (first ++ second) = (writer.run? first).bind (·.run? second) := by
  rw [run?, List.foldlM_append]
  rfl

/-- Where both go through, there is a writer between them. -/
theorem run?_append_eq_some {writer last : LineWriter} {first second : List WriterCall} :
    writer.run? (first ++ second) = some last ↔
      ∃ middle, writer.run? first = some middle ∧ middle.run? second = some last := by
  rw [run?_append, Option.bind_eq_some_iff]

@[simp]
theorem leads_deliver (writer : LineWriter) (pieces : List Bytes) (tail : Bytes) :
    (writer.deliver pieces tail).leads = writer.leads := by
  induction pieces generalizing writer with
  | nil => rfl
  | cons piece pieces ih =>
      rw [deliver]
      split
      · exact ih _
      · rfl

@[simp]
theorem leads_put (writer : LineWriter) (bytes : Bytes) :
    (writer.put bytes).leads = writer.leads := by
  unfold put
  split
  · rfl
  · exact leads_deliver _ _ _

@[simp]
theorem leads_flushLine (writer : LineWriter) : writer.flushLine.leads = writer.leads := by
  unfold flushLine endLine
  split
  · rfl
  · exact leads_put _ _

/-- A failed writer takes nothing in. -/
theorem put_of_isFailed {writer : LineWriter} (hfailed : writer.isFailed = true)
    (bytes : Bytes) : writer.put bytes = writer := by
  simp [put, hfailed]

/-- A failed writer ends no line. -/
theorem flushLine_of_isFailed {writer : LineWriter} (hfailed : writer.isFailed = true) :
    writer.flushLine = writer := by
  simp [flushLine, endLine, put_of_isFailed hfailed]

/-- Whether a call goes through depends on the number of leads alone. -/
theorem call?_depth (writer : LineWriter) (call : WriterCall) :
    (writer.call? call).map (·.leads.length) =
      WriterCall.depthAfter writer.leads.length call := by
  cases call with
  | popLead =>
      cases hleads : writer.leads <;>
        simp [call?, popLead?, WriterCall.depthAfter, hleads]
  | _ => simp [call?, WriterCall.depthAfter, write, writeLine, endLine, pushLead]

/-- Whether a script goes through depends on the number of leads alone. -/
theorem run?_depth (writer : LineWriter) (script : List WriterCall) :
    (writer.run? script).map (·.leads.length) =
      WriterCall.depthAfterAll writer.leads.length script := by
  induction script generalizing writer with
  | nil => rfl
  | cons call script ih =>
      rw [run?_cons, WriterCall.depthAfterAll_cons, ← call?_depth, Option.map_bind,
        Option.bind_map]
      exact Option.bind_congr fun next _ => ih next

/-- A script that never takes away more leads than there are goes through. -/
theorem exists_run? (writer : LineWriter) {script : List WriterCall}
    (hdepth : (WriterCall.depthAfterAll writer.leads.length script).isSome) :
    ∃ last, writer.run? script = some last := by
  rw [← run?_depth, Option.isSome_map] at hdepth
  exact Option.isSome_iff_exists.mp hdepth

/-- A call that finds enough leads leaves those below them as they are. -/
theorem exists_leads_call? {writer next : LineWriter} {call : WriterCall}
    {upper lower : List Lead} {depth : Nat} (hleads : writer.leads = upper ++ lower)
    (hdepth : WriterCall.depthAfter upper.length call = some depth)
    (hcall : writer.call? call = some next) :
    ∃ rest, next.leads = rest ++ lower ∧ rest.length = depth := by
  cases call with
  | pushLead bytes lines =>
      cases hcall
      cases hdepth
      exact ⟨_ :: upper, congrArg (_ :: ·) hleads, rfl⟩
  | popLead =>
      cases upper with
      | nil => simp [WriterCall.depthAfter] at hdepth
      | cons lead upper =>
          simp only [call?, popLead?, hleads, List.cons_append, Option.some.injEq] at hcall
          simp [WriterCall.depthAfter] at hdepth
          exact ⟨upper, by rw [← hcall], hdepth⟩
  | _ =>
      cases hcall
      cases hdepth
      exact ⟨upper, by simpa [write, writeLine, endLine] using hleads, rfl⟩

/-- A script that never takes away more leads than there are above others leaves those
as they are. -/
theorem exists_leads_run? {writer last : LineWriter} {script : List WriterCall}
    {upper lower : List Lead} {depth : Nat} (hleads : writer.leads = upper ++ lower)
    (hdepth : WriterCall.depthAfterAll upper.length script = some depth)
    (hrun : writer.run? script = some last) :
    ∃ rest, last.leads = rest ++ lower ∧ rest.length = depth := by
  induction script generalizing writer upper with
  | nil =>
      cases hrun
      cases hdepth
      exact ⟨upper, hleads, rfl⟩
  | cons call script ih =>
      obtain ⟨next, hcall, hrest⟩ := Option.bind_eq_some_iff.mp hrun
      obtain ⟨middle, hmiddle, hdepths⟩ := Option.bind_eq_some_iff.mp hdepth
      obtain ⟨rest, hnext, rfl⟩ := exists_leads_call? hleads hmiddle hcall
      exact ih hnext hdepths hrest

/-- No call reaches the sink of a failed writer. -/
theorem call?_of_isFailed {writer next : LineWriter} {call : WriterCall}
    (hfailed : writer.isFailed = true) (hcall : writer.call? call = some next) :
    next.sink = writer.sink ∧ next.health = writer.health := by
  cases call with
  | popLead =>
      cases hleads : writer.leads <;> simp_all [call?, popLead?]
      rw [← hcall]
      exact ⟨rfl, rfl⟩
  | _ =>
      simp only [call?, write, writeLine, endLine, put_of_isFailed hfailed,
        flushLine_of_isFailed hfailed, Option.some.injEq] at hcall
      rw [← hcall]
      exact ⟨rfl, rfl⟩

/-- Whether a writer has failed is told by its health. -/
theorem isFailed_congr {first second : LineWriter} (hhealth : first.health = second.health) :
    first.isFailed = second.isFailed := by
  rw [isFailed, isFailed, hhealth]

/-- No script reaches the sink of a failed writer. -/
theorem run?_of_isFailed {writer last : LineWriter} {script : List WriterCall}
    (hfailed : writer.isFailed = true) (hrun : writer.run? script = some last) :
    last.sink = writer.sink ∧ last.health = writer.health := by
  induction script generalizing writer with
  | nil =>
      cases hrun
      exact ⟨rfl, rfl⟩
  | cons call script ih =>
      obtain ⟨next, hcall, hrest⟩ := Option.bind_eq_some_iff.mp hrun
      obtain ⟨hsink, hhealth⟩ := call?_of_isFailed hfailed hcall
      obtain ⟨hsinks, hhealths⟩ := ih ((isFailed_congr hhealth).trans hfailed) hrest
      exact ⟨hsinks.trans hsink, hhealths.trans hhealth⟩

end LineWriter

end MarkdownFormat
