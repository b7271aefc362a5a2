/-
# What render functions are made of

Render functions combine a few actions: writing, putting up and taking down leads and
lists, opening and closing code spans, and giving warnings. Of the state they look at the
open lists and the open code span, and never at the line writer. `Routine` says that an
action is made in this way, and that all bytes that it writes or puts in front of lines are
of a given sort. Whatever holds of the few actions and is kept by doing one after the
other holds of all render functions and of whole walks.

Only the functions of lists and items open and close lists. `ListFree` says that an action
is made of the others alone.
-/

import MarkdownFormat.Proofs.Document.Traversal
import MarkdownFormat.Proofs.Render.Pairing
import MarkdownFormat.Proofs.Text.Utf8

namespace MarkdownFormat

/-- An action of a render function that brings only allowed bytes. -/
inductive Routine (allowed : Bytes → Prop) : {α : Type} → RenderM α → Prop
  | pure {α : Type} (answer : α) : Routine allowed (Pure.pure answer)
  | bind {α β : Type} {action : RenderM α} {next : α → RenderM β}
      (haction : Routine allowed action) (hnext : ∀ answer, Routine allowed (next answer)) :
      Routine allowed (action >>= next)
  | put {bytes : Bytes} (hbytes : allowed bytes) : Routine allowed (RenderM.put bytes)
  | endLine : Routine allowed RenderM.endLine
  | flushLine : Routine allowed RenderM.flushLine
  | pushLead {bytes : Bytes} (hbytes : allowed bytes) (lines : LeadLines) :
      Routine allowed (RenderM.pushLead bytes lines)
  | popLead : Routine allowed RenderM.popLead
  | pushList (frame : ListFrame) : Routine allowed (RenderM.pushList frame)
  | popList : Routine allowed RenderM.popList
  | itemMarker : Routine allowed Render.itemMarker
  | setCodeSpan (codeSpan : Option CodeSpanStyle) : Routine allowed (RenderM.setCodeSpan codeSpan)
  /-- Looking at the open code span. -/
  | look {α : Type} {next : Option CodeSpanStyle → RenderM α}
      (hnext : ∀ codeSpan, Routine allowed (next codeSpan)) :
      Routine allowed (get >>= fun state => next state.codeSpan)
  | warn (warning : Warning) : Routine allowed (RenderM.warn warning)

/-- A routine action that has nothing to do with the open lists. What it puts in front of lines
may be of a sort of its own. -/
inductive ListFree (allowed leading : Bytes → Prop) : {α : Type} → RenderM α → Prop
  | pure {α : Type} (answer : α) : ListFree allowed leading (Pure.pure answer)
  | bind {α β : Type} {action : RenderM α} {next : α → RenderM β}
      (haction : ListFree allowed leading action)
      (hnext : ∀ answer, ListFree allowed leading (next answer)) :
      ListFree allowed leading (action >>= next)
  | put {bytes : Bytes} (hbytes : allowed bytes) : ListFree allowed leading (RenderM.put bytes)
  | endLine : ListFree allowed leading RenderM.endLine
  | flushLine : ListFree allowed leading RenderM.flushLine
  | pushLead {bytes : Bytes} (hbytes : leading bytes) (lines : LeadLines) :
      ListFree allowed leading (RenderM.pushLead bytes lines)
  | popLead : ListFree allowed leading RenderM.popLead
  | setCodeSpan (codeSpan : Option CodeSpanStyle) :
      ListFree allowed leading (RenderM.setCodeSpan codeSpan)
  /-- Looking at the open code span. -/
  | look {α : Type} {next : Option CodeSpanStyle → RenderM α}
      (hnext : ∀ codeSpan, ListFree allowed leading (next codeSpan)) :
      ListFree allowed leading (get >>= fun state => next state.codeSpan)
  | warn (warning : Warning) : ListFree allowed leading (RenderM.warn warning)

/-- An action that has nothing to do with lists is one of the actions. -/
theorem ListFree.routine {allowed : Bytes → Prop} {α : Type} {action : RenderM α}
    (haction : ListFree allowed allowed action) : Routine allowed action := by
  induction haction with
  | pure answer => exact .pure answer
  | bind _ _ haction hnext => exact .bind haction hnext
  | put hbytes => exact .put hbytes
  | endLine => exact .endLine
  | flushLine => exact .flushLine
  | pushLead hbytes lines => exact .pushLead hbytes lines
  | popLead => exact .popLead
  | setCodeSpan codeSpan => exact .setCodeSpan codeSpan
  | look _ hnext => exact .look hnext
  | warn warning => exact .warn warning

/-- The sorts of bytes that render functions can be held to: whatever is written as text is
of the sort, and so is the text of a code span. -/
structure Admissible (allowed : Bytes → Prop) : Prop where
  encode : ∀ text, allowed (Utf8.encode text)
  joinedLines : ∀ bytes, allowed bytes → allowed (Render.joinedLines bytes)

/-- Any bytes at all may be allowed. -/
theorem admissible_any : Admissible fun _ => True := ⟨fun _ => trivial, fun _ _ => trivial⟩

/-- The values of an element that are written as they stand. -/
def Element.values : Element → List Value
  | .text value _ | .autoLink value => [value]
  | .rawHtml segments => segments
  | .fencedCodeBlock info => info.toList
  | .htmlBlock closure => closure.toList
  | _ => []

/-- Whether the content lines of a node are written. Those of a heading are only counted and
measured. -/
def Element.writesLines : Element → Bool
  | .codeBlock | .fencedCodeBlock _ | .htmlBlock _ => true
  | _ => false

/-- The values of a node that are written as they stand. -/
def Node.values (node : Node) : List Value :=
  node.element.values ++ if node.element.writesLines then node.lines else []

namespace ListFree

variable {allowed leading : Bytes → Prop} {α : Type}

/-- Which of two actions is done may depend on a condition. -/
theorem ite {condition : Prop} [Decidable condition] {first second : RenderM α}
    (hfirst : ListFree allowed leading first) (hsecond : ListFree allowed leading second) :
    ListFree allowed leading (if condition then first else second) := by
  split
  · exact hfirst
  · exact hsecond

/-- What an action answers may be replaced. -/
theorem answer {action : RenderM α} {β : Type} (haction : ListFree allowed leading action)
    (last : β) : ListFree allowed leading (action >>= fun _ => Pure.pure last) :=
  haction.bind fun _ => .pure last

/-- An action may be done for each of several items. -/
theorem forM {items : List α} {action : α → RenderM PUnit}
    (haction : ∀ item ∈ items, ListFree allowed leading (action item)) :
    ListFree allowed leading (items.forM action) := by
  induction items with
  | nil => exact .pure _
  | cons item items ih =>
      refine (haction item List.mem_cons_self).bind fun _ => ih ?_
      exact fun other hother => haction other (List.mem_cons_of_mem _ hother)

variable (hadmissible : Admissible allowed) {scene : Scene} {id : NodeId} {phase : Phase}
include hadmissible

/-- Text of a render function is allowed. -/
theorem putText (text : List Char) : ListFree allowed leading (RenderM.putText text) :=
  .put (hadmissible.encode text)

omit hadmissible in
/-- The separator writes nothing and ends lines. -/
theorem separator : ListFree allowed leading (Render.separator scene id phase) := by
  cases phase with
  | enter => exact .ite (ListFree.endLine.answer _) (.pure _)
  | exit => exact ListFree.flushLine.answer _

omit hadmissible in
/-- A block function is separated from what goes before, and ends its last line. -/
theorem asBlock {render : RenderFn}
    (hrender : ∀ phase, ListFree allowed leading (render scene id phase)) :
    ListFree allowed leading (asBlock render scene id phase) := by
  cases phase with
  | enter => exact separator.bind fun _ => (hrender .enter).bind fun _ => .pure _
  | exit => exact (hrender .exit).bind fun _ => separator.bind fun _ => .pure _

omit hadmissible in
/-- A quote brings its mark, for the front of lines. -/
theorem blockquote (hleading : ∀ text, '\n' ∉ text → leading (Utf8.encode text)) :
    ListFree allowed leading (Render.blockquote scene id phase) := by
  cases phase with
  | enter => exact (ListFree.pushLead (hleading _ (by decide)) _).answer _
  | exit => exact ListFree.popLead.answer _

/-- A heading brings marks and underlines. -/
theorem heading : ListFree allowed leading (Render.heading scene id phase) := by
  rw [Render.heading]
  split
  · refine .ite (ListFree.answer ?_ _) (ListFree.answer ?_ _)
    · cases phase with
      | enter => exact .pure _
      | exit => exact ListFree.endLine.bind fun _ => putText hadmissible _
    · cases phase with
      | enter => exact (putText hadmissible _).bind fun _ => .ite (putText hadmissible _) (.pure _)
      | exit => exact .ite (putText hadmissible _) (.pure _)
  · exact .pure _

/-- A thematic break brings its rule. -/
theorem thematicBreak : ListFree allowed leading (Render.thematicBreak scene id phase) := by
  cases phase with
  | enter => exact (putText hadmissible _).answer _
  | exit => exact .pure _

omit hadmissible in
/-- Content lines are written as they are. -/
theorem contentLines
    (hlines : ∀ line ∈ (scene.node id).lines, allowed (line.bytes scene.source)) :
    ListFree allowed leading (Render.contentLines scene id) :=
  .forM fun line hline => (ListFree.put (hlines line hline)).bind fun _ => .flushLine

omit hadmissible in
/-- An indented code block brings its indent and its content lines. -/
theorem codeBlock (hleading : ∀ text, '\n' ∉ text → leading (Utf8.encode text))
    (hlines : ∀ line ∈ (scene.node id).lines, allowed (line.bytes scene.source)) :
    ListFree allowed leading (Render.codeBlock scene id phase) := by
  cases phase with
  | enter =>
      have hunit : '\n' ∉ scene.config.indentStyle.unit.toList := by
        cases scene.config.indentStyle <;> decide
      exact (ListFree.pushLead (hleading _ hunit) _).bind fun _ => (contentLines hlines).answer _
  | exit => exact ListFree.popLead.answer _

/-- A fenced code block brings fences, its info string and its content lines. -/
theorem fencedCodeBlock
    (hlines : ∀ line ∈ (scene.node id).lines, allowed (line.bytes scene.source))
    (hinfo : ∀ info, (scene.node id).element = .fencedCodeBlock (some info) →
      allowed (info.bytes scene.source)) :
    ListFree allowed leading (Render.fencedCodeBlock scene id phase) := by
  rw [Render.fencedCodeBlock]
  split
  · rename_i info helement
    refine (putText hadmissible _).bind fun _ => ?_
    cases phase with
    | exit => exact .pure _
    | enter =>
        refine ListFree.bind (.put ?_) fun _ =>
          ListFree.flushLine.bind fun _ => (contentLines hlines).answer _
        cases info with
        | none => exact hadmissible.encode []
        | some info => exact hinfo info helement
  · exact .pure _

omit hadmissible in
/-- An HTML block brings its content lines and the line that closes it. -/
theorem htmlBlock (hlines : ∀ line ∈ (scene.node id).lines, allowed (line.bytes scene.source))
    (hclosure : ∀ closure, (scene.node id).element = .htmlBlock (some closure) →
      allowed (closure.bytes scene.source)) :
    ListFree allowed leading (Render.htmlBlock scene id phase) := by
  unfold Render.htmlBlock
  split
  · exact (contentLines hlines).answer _
  · rename_i closure helement
    exact (ListFree.put (hclosure closure helement)).bind fun _ => ListFree.flushLine.answer _
  · exact .pure _

/-- A text brings its value, with other blanks in a code span, and its line break. -/
theorem text (hvalue : ∀ value breaks, (scene.node id).element = .text value breaks →
      allowed (value.bytes scene.source)) :
    ListFree allowed leading (Render.text scene id phase) := by
  unfold Render.text
  split
  · rename_i value breaks helement
    have hbytes := hvalue value breaks helement
    have hnext : ∀ codeSpan : Option CodeSpanStyle, ListFree allowed leading (do
        RenderM.put (if codeSpan.isSome then Render.joinedLines (value.bytes scene.source)
          else value.bytes scene.source)
        if breaks.hard then
          RenderM.putText ['\\']
          RenderM.endLine
        else if breaks.soft then
          RenderM.endLine
        return WalkStatus.proceed) := by
      intro codeSpan
      refine ListFree.bind (.put ?_) fun _ => .ite
        ((putText hadmissible _).bind fun _ => ListFree.endLine.answer _)
        (.ite (ListFree.endLine.answer _) (.pure _))
      split
      · exact hadmissible.joinedLines _ hbytes
      · exact hbytes
    exact .look hnext
  · exact .pure _

/-- Emphasis brings its marks. -/
theorem emphasis : ListFree allowed leading (Render.emphasis scene id phase) := by
  rw [Render.emphasis]
  split
  · exact (putText hadmissible _).answer _
  · exact .pure _

/-- A code span brings backticks and blanks. -/
theorem codeSpan : ListFree allowed leading (Render.codeSpan scene id phase) := by
  cases phase with
  | enter => exact (ListFree.setCodeSpan _).bind fun _ => (putText hadmissible _).answer _
  | exit =>
      have hnext : ∀ codeSpan : Option CodeSpanStyle, ListFree allowed leading (do
          RenderM.putText (CodeSpan.closing (codeSpan.getD {}))
          RenderM.setCodeSpan none
          return WalkStatus.proceed) :=
        fun _ => (putText hadmissible _).bind fun _ => (ListFree.setCodeSpan _).answer _
      exact .look hnext

/-- A link brings brackets, its destination and its title. -/
theorem link : ListFree allowed leading (Render.link scene id phase) := by
  unfold Render.link
  split
  · exact (putText hadmissible _).answer _
  · exact (putText hadmissible _).answer _
  · exact .pure _

/-- An image brings what a link does, and an exclamation mark. -/
theorem image : ListFree allowed leading (Render.image scene id phase) := by
  unfold Render.image
  split
  · exact (putText hadmissible _).answer _
  · exact (putText hadmissible _).answer _
  · exact .pure _

/-- An address stands between brackets. -/
theorem autoLink (hurl : ∀ url, (scene.node id).element = .autoLink url →
      allowed (url.bytes scene.source)) :
    ListFree allowed leading (Render.autoLink scene id phase) := by
  cases phase with
  | enter =>
      rw [Render.autoLink]
      refine (putText hadmissible _).bind fun _ => ?_
      split
      · rename_i url helement
        exact (ListFree.put (hurl url helement)).answer _
      · exact .pure _
  | exit => exact (putText hadmissible _).answer _

omit hadmissible in
/-- Raw HTML brings its segments. -/
theorem rawHtml (hsegments : ∀ segments, (scene.node id).element = .rawHtml segments →
      ∀ value ∈ segments, allowed (value.bytes scene.source)) :
    ListFree allowed leading (Render.rawHtml scene id phase) := by
  unfold Render.rawHtml
  split
  · rename_i segments helement
    have hsegment : ∀ value ∈ segments,
        ListFree allowed leading (RenderM.put (value.bytes scene.source)) :=
      fun value hvalue => .put (hsegments segments helement value hvalue)
    exact (ListFree.forM hsegment).answer _
  · exact .pure _

/-- Strikethrough brings tildes. -/
theorem strikethrough : ListFree allowed leading (Render.strikethrough scene id phase) :=
  (putText hadmissible _).answer _

/-- Whatever a node other than a list or an item is, its function writes allowed bytes only, if
the values of the node are allowed. In front of lines it puts text without line endings. -/
theorem builtIn (hleading : ∀ text, '\n' ∉ text → leading (Utf8.encode text))
    {render : RenderFn} (hlist : (scene.node id).element.kind ≠ .list)
    (hitem : (scene.node id).element.kind ≠ .listItem)
    (hrender : Renderer.builtIn (scene.node id).element.kind = some render)
    (hvalues : ∀ value ∈ (scene.node id).values, allowed (value.bytes scene.source)) :
    ListFree allowed leading (render scene id phase) := by
  have hown : ∀ value ∈ (scene.node id).element.values, allowed (value.bytes scene.source) :=
    fun value hvalue => hvalues value (List.mem_append_left _ hvalue)
  have hlines : (scene.node id).element.writesLines = true →
      ∀ line ∈ (scene.node id).lines, allowed (line.bytes scene.source) := by
    intro hwrites line hline
    exact hvalues line (List.mem_append_right _ (by rwa [if_pos hwrites]))
  cases helement : (scene.node id).element <;>
    simp only [helement, Element.kind, Renderer.builtIn, Option.some.injEq] at hrender <;>
    try subst hrender
  case document | paragraph | textBlock => exact separator
  case heading level => exact asBlock fun _ => heading hadmissible
  case blockquote => exact asBlock fun _ => blockquote hleading
  case codeBlock => exact asBlock fun _ => codeBlock hleading (hlines (by rw [helement]; rfl))
  case fencedCodeBlock info =>
      refine asBlock fun _ => fencedCodeBlock hadmissible (hlines (by rw [helement]; rfl)) ?_
      intro info hinfo
      exact hown info (by rw [hinfo]; exact List.mem_cons_self)
  case htmlBlock closure =>
      refine asBlock fun _ => htmlBlock (hlines (by rw [helement]; rfl)) ?_
      intro closure hclosure
      exact hown closure (by rw [hclosure]; exact List.mem_cons_self)
  case list => exact absurd (congrArg Element.kind helement) hlist
  case listItem => exact absurd (congrArg Element.kind helement) hitem
  case thematicBreak => exact asBlock fun _ => thematicBreak hadmissible
  case text value breaks =>
      apply text hadmissible
      intro value breaks htext
      exact hown value (by rw [htext]; exact List.mem_cons_self)
  case emphasis level => exact emphasis hadmissible
  case codeSpan => exact codeSpan hadmissible
  case link destination title => exact link hadmissible
  case image destination title => exact image hadmissible
  case autoLink url =>
      apply autoLink hadmissible
      intro url hurl
      exact hown url (by rw [hurl]; exact List.mem_cons_self)
  case rawHtml segments =>
      apply rawHtml
      intro segments hsegments value hvalue
      exact hown value (by rw [hsegments]; exact hvalue)
  case custom name block =>
      split at hrender
      · cases hrender
        exact asBlock fun _ => .pure _
      · cases hrender

/-- The same holds of every visit to such a node, also that of one without a function. -/
theorem dispatch (hleading : ∀ text, '\n' ∉ text → leading (Utf8.encode text)) (config : Config)
    (strikethrough : Bool) (hlist : scene.document.kind id ≠ .list)
    (hitem : scene.document.kind id ≠ .listItem)
    (hvalues : ∀ value ∈ (scene.node id).values, allowed (value.bytes scene.source)) :
    ListFree allowed leading
      ((Renderer.forMarkdown config strikethrough).dispatch scene id phase) := by
  cases hfunction :
      (Renderer.forMarkdown config strikethrough).functions (scene.document.kind id) with
  | none =>
      simp only [Renderer.dispatch, hfunction]
      exact .ite ((ListFree.warn _).answer _) (.pure _)
  | some render =>
      simp only [Renderer.dispatch, hfunction]
      rw [Renderer.functions_forMarkdown] at hfunction
      split at hfunction
      · cases hfunction
        exact ListFree.strikethrough hadmissible
      · exact builtIn hadmissible hleading hlist hitem hfunction hvalues

end ListFree

namespace Routine

variable {allowed : Bytes → Prop} {scene : Scene} {id : NodeId} {phase : Phase}

/-- What an action answers may be replaced. -/
theorem answer {action : RenderM α} {β : Type} (haction : Routine allowed action) (last : β) :
    Routine allowed (action >>= fun _ => Pure.pure last) :=
  haction.bind fun _ => .pure last

/-- A block function is separated from what goes before, and ends its last line. -/
theorem asBlock {render : RenderFn} (hrender : ∀ phase, Routine allowed (render scene id phase)) :
    Routine allowed (asBlock render scene id phase) := by
  have hseparator : Routine allowed (Render.separator scene id phase) :=
    ListFree.separator.routine
  cases phase with
  | enter => exact hseparator.bind fun _ => (hrender .enter).bind fun _ => .pure _
  | exit => exact (hrender .exit).bind fun _ => hseparator.bind fun _ => .pure _

/-- A list is opened and closed without writing. -/
theorem list : Routine allowed (Render.list scene id phase) := by
  cases phase with
  | enter =>
      rw [Render.list]
      split <;> exact (Routine.pushList _).answer _
  | exit => exact (Routine.popList.answer _).answer _

variable (hadmissible : Admissible allowed)
include hadmissible

/-- An item brings its marker and an indent, for the front of lines. -/
theorem listItem : Routine allowed (Render.listItem scene id phase) := by
  cases phase with
  | enter =>
      refine Routine.itemMarker.bind fun marker => ?_
      have hlater : allowed (ListItem.laterLead scene.config (ListItem.firstLead marker)) := by
        have hspaces := Utf8.encode_replicate (c := ' ') (by decide)
        rw [ListItem.laterLead]
        exact hspaces _ ▸ hadmissible.encode _
      exact (Routine.pushLead (hadmissible.encode _) _).bind fun _ =>
        (Routine.pushLead hlater _).answer _
  | exit =>
      have hleads : Routine allowed (RenderM.popLead >>= fun _ => RenderM.popLead >>= fun _ =>
          (Pure.pure .proceed : RenderM WalkStatus)) :=
        Routine.popLead.bind fun _ => Routine.popLead.answer _
      rw [Render.listItem]
      split
      · exact Routine.endLine.bind fun _ => hleads
      · exact hleads

/-- Every visit with the built-in functions is made of the few actions, also that of a node
without a function. -/
theorem dispatch (config : Config) (strikethrough : Bool)
    (hvalues : ∀ value ∈ (scene.node id).values, allowed (value.bytes scene.source)) :
    Routine allowed ((Renderer.forMarkdown config strikethrough).dispatch scene id phase) := by
  by_cases hlist : scene.document.kind id = .list
  · rw [Renderer.dispatch_forMarkdown hlist rfl rfl]
    exact asBlock fun _ => list
  · by_cases hitem : scene.document.kind id = .listItem
    · rw [Renderer.dispatch_forMarkdown hitem rfl rfl]
      exact asBlock fun _ => listItem hadmissible
    · exact (ListFree.dispatch hadmissible (fun text _ => hadmissible.encode text) config
        strikethrough hlist hitem hvalues).routine

end Routine

/-- Where the action goes through, the same lists are open as before, with the same counts. -/
def KeepsLists {α : Type} (action : RenderM α) : Prop :=
  ∀ state answer after, action state = .ok answer after → after.lists = state.lists

/-- Two actions that keep the lists keep them one after the other. -/
theorem KeepsLists.bind {α β : Type} {action : RenderM α} {next : α → RenderM β}
    (haction : KeepsLists action) (hnext : ∀ answer, KeepsLists (next answer)) :
    KeepsLists (action >>= next) := by
  intro state last after hlast
  change EStateM.bind action next state = _ at hlast
  rw [EStateM.bind] at hlast
  cases hfirst : action state with
  | error misuse stopped =>
      rw [hfirst] at hlast
      cases hlast
  | ok answer middle =>
      rw [hfirst] at hlast
      exact (hnext answer middle last after hlast).trans (haction state answer middle hfirst)

/-- Render functions other than those of lists and items leave the open lists alone. -/
theorem ListFree.keepsLists {allowed leading : Bytes → Prop} {α : Type} {action : RenderM α}
    (haction : ListFree allowed leading action) : KeepsLists action := by
  induction haction with
  | bind _ _ haction hnext => exact haction.bind hnext
  | look _ hnext => exact fun state => hnext state.codeSpan state
  | popLead =>
      intro state answer after hpop
      rw [RenderM.popLead, get_bind_apply] at hpop
      cases hwriter : state.writer.popLead? <;> rw [hwriter] at hpop <;> cases hpop
      rfl
  | pure | put | endLine | flushLine | pushLead | setCodeSpan | warn =>
      rintro state _ _ ⟨⟩
      rfl

/-- Whatever allowed is done to a writer, the property is kept. -/
structure LineWriter.Kept (allowed : Bytes → Prop) (holds : LineWriter → Prop) : Prop where
  put : ∀ {writer : LineWriter} {bytes : Bytes}, holds writer → allowed bytes →
    holds (writer.put bytes)
  endLine : ∀ {writer : LineWriter}, holds writer → holds writer.endLine
  pushLead : ∀ {writer : LineWriter} {bytes : Bytes} (lines : LeadLines), holds writer →
    allowed bytes → holds (writer.pushLead bytes lines)
  popLead : ∀ {writer next : LineWriter}, holds writer → writer.popLead? = some next → holds next
  check : ∀ {writer : LineWriter}, holds writer → holds writer.check.2

/-- Flushing a line is ending it if it is not empty. -/
theorem LineWriter.Kept.flushLine {allowed : Bytes → Prop} {holds : LineWriter → Prop}
    (hkept : Kept allowed holds) {writer : LineWriter} (hwriter : holds writer) :
    holds writer.flushLine := by
  rw [LineWriter.flushLine]
  split
  · exact hwriter
  · exact hkept.endLine hwriter

/-- The state in which an action ends, whether or not it goes through. -/
def lastState {ε σ α : Type} : EStateM.Result ε σ α → σ
  | .ok _ state | .error _ state => state

/-- If it holds of the state before the action, it holds of the state in which it ends. -/
def Maintains {ε α : Type} (holds : RenderState → Prop) (action : EStateM ε RenderState α) :
    Prop :=
  ∀ state, holds state → holds (lastState (action state))

namespace Maintains

variable {ε α β : Type} {holds : RenderState → Prop}

/-- Answering changes nothing. -/
theorem pure (answer : α) : Maintains holds (pure answer : EStateM ε RenderState α) :=
  fun _ hstate => hstate

/-- What two actions keep they keep one after the other. -/
theorem bind {action : EStateM ε RenderState α} {next : α → EStateM ε RenderState β}
    (haction : Maintains holds action) (hnext : ∀ answer, Maintains holds (next answer)) :
    Maintains holds (action >>= next) := by
  intro state hstate
  have hmiddle := haction state hstate
  show holds (lastState (EStateM.bind action next state))
  rw [EStateM.bind]
  cases hresult : action state with
  | ok answer middle =>
      rw [hresult] at hmiddle
      exact hnext answer middle hmiddle
  | error fault stopped =>
      rw [hresult] at hmiddle
      exact hmiddle

/-- How a failure is told does not matter. -/
theorem adaptExcept {ε' : Type} {action : EStateM ε RenderState α}
    (haction : Maintains holds action) (adapt : ε → ε') :
    Maintains holds (action.adaptExcept adapt) := by
  intro state hstate
  have hlast := haction state hstate
  rw [EStateM.adaptExcept]
  cases hresult : action state <;> rwa [hresult] at hlast

variable (hcheck : ∀ {state : RenderState}, holds state →
  holds { state with writer := state.writer.check.2 })
include hcheck

/-- Asking for a failure of the sink takes it away from the writer. -/
theorem checkSink : Maintains holds Renderer.checkSink := by
  intro state hstate
  have hchecked := hcheck hstate
  rw [Renderer.checkSink, get_bind_apply]
  cases hresult : state.writer.check with
  | mk result writer =>
      rw [hresult] at hchecked
      cases result <;> exact hchecked

/-- A visit asks for failures and does what the renderer has for the node. -/
theorem visit {renderer : Renderer} {scene : Scene} {id : NodeId} {phase : Phase}
    (hdispatch : Maintains holds (renderer.dispatch scene id phase)) :
    Maintains holds (renderer.visit scene id phase) := by
  exact (hdispatch.adaptExcept .misuse).bind fun status =>
    (checkSink hcheck).bind fun _ => .pure status

/-- What every function of a renderer maintains, a rendering maintains, however it ends. -/
theorem renderNode {renderer : Renderer} {sink : Sink} {source : Bytes} {document : Document}
    (hflush : ∀ {state : RenderState}, holds state →
      holds { state with writer := state.writer.flushLine })
    (hdispatch : ∀ id phase,
      Maintains holds (renderer.dispatch ⟨source, document, renderer.config⟩ id phase))
    (hstart : holds { writer := .onto sink }) (id : NodeId) :
    holds (renderer.renderNode sink source document id).2 := by
  let scene : Scene := ⟨source, document, renderer.config⟩
  have hwalk : Maintains holds (document.walk (renderer.visit scene) id) :=
    Document.walkTo_of_closed .pure .bind (fun id phase => visit hcheck (hdispatch id phase))
      document.size id
  have hlast := hwalk _ hstart
  rw [Renderer.renderNode_eq]
  cases hresult : document.walk (renderer.visit scene) id { writer := .onto sink } with
  | error fault stopped =>
      rw [hresult] at hlast
      exact hlast
  | ok status state =>
      rw [hresult] at hlast
      have hchecked :=
        checkSink hcheck { state with writer := state.writer.flushLine } (hflush hlast)
      dsimp only
      cases hcheck : Renderer.checkSink { state with writer := state.writer.flushLine } <;>
        rw [hcheck] at hchecked <;> exact hchecked

end Maintains

/-- If it holds of the writer before the action, it holds of the writer afterwards. -/
def Keeps {ε α : Type} (holds : LineWriter → Prop) (action : EStateM ε RenderState α) : Prop :=
  ∀ state, holds state.writer → holds (lastState (action state)).writer

variable {allowed : Bytes → Prop} {holds : LineWriter → Prop}

/-- What is kept by everything done to the writer is kept by render functions. -/
theorem Routine.keeps {α : Type} {action : RenderM α} (hroutine : Routine allowed action)
    (hkept : LineWriter.Kept allowed holds) : Keeps holds action := by
  induction hroutine with
  | pure answer => exact Maintains.pure answer
  | bind _ _ haction hnext => exact Maintains.bind haction hnext
  | put hbytes => exact fun _ hstate => hkept.put hstate hbytes
  | endLine => exact fun _ hstate => hkept.endLine hstate
  | flushLine => exact fun _ hstate => hkept.flushLine hstate
  | pushLead hbytes lines => exact fun _ hstate => hkept.pushLead lines hstate hbytes
  | popLead =>
      intro state hstate
      rw [RenderM.popLead, get_bind_apply]
      cases hpop : state.writer.popLead? with
      | none => exact hstate
      | some writer => exact hkept.popLead hstate hpop
  | popList =>
      intro state hstate
      rw [RenderM.popList, get_bind_apply]
      cases state.lists <;> exact hstate
  | itemMarker =>
      intro state hstate
      rw [Render.itemMarker, get_bind_apply]
      cases state.lists <;> exact hstate
  | look _ hnext => exact fun state => hnext state.codeSpan state
  | pushList | setCodeSpan | warn => exact fun _ hstate => hstate

namespace Renderer

/-- What everything done to the writer keeps, a call of a render function keeps, if all values of
its node are allowed. -/
theorem keeps_dispatch (hadmissible : Admissible allowed) (hkept : LineWriter.Kept allowed holds)
    (config : Config) (strikethrough : Bool) {scene : Scene} {id : NodeId} {phase : Phase}
    (hvalues : ∀ value ∈ (scene.node id).values, allowed (value.bytes scene.source)) :
    Keeps holds ((forMarkdown config strikethrough).dispatch scene id phase) :=
  (Routine.dispatch hadmissible config strikethrough hvalues).keeps hkept

/-- The same for a visit. -/
theorem keeps_visit (hadmissible : Admissible allowed) (hkept : LineWriter.Kept allowed holds)
    (config : Config) (strikethrough : Bool) {scene : Scene} {id : NodeId} {phase : Phase}
    (hvalues : ∀ value ∈ (scene.node id).values, allowed (value.bytes scene.source)) :
    Keeps holds ((forMarkdown config strikethrough).visit scene id phase) :=
  @Maintains.visit (fun state => holds state.writer) (fun hstate => hkept.check hstate) _ _ _ _
    (keeps_dispatch hadmissible hkept config strikethrough hvalues)

/-- The same for a walk, if all values in the document are allowed. -/
theorem keeps_walkTo (hadmissible : Admissible allowed) (hkept : LineWriter.Kept allowed holds)
    (config : Config) (strikethrough : Bool) {scene : Scene}
    (hvalues : ∀ id, ∀ value ∈ (scene.node id).values, allowed (value.bytes scene.source))
    (depth : Nat) (id : NodeId) :
    Keeps holds
      (scene.document.walkTo ((forMarkdown config strikethrough).visit scene) depth id) :=
  Document.walkTo_of_closed Maintains.pure Maintains.bind
    (fun id _ => keeps_visit hadmissible hkept config strikethrough (hvalues id)) depth id

/-- The same for a rendering, however it ends. -/
theorem keeps_renderNode (hadmissible : Admissible allowed)
    (hkept : LineWriter.Kept allowed holds) (config : Config) (strikethrough : Bool)
    {sink : Sink} {source : Bytes} {document : Document}
    (hvalues : ∀ id, ∀ value ∈ (document.node id).values, allowed (value.bytes source))
    (hsink : holds (.onto sink)) (id : NodeId) :
    holds ((forMarkdown config strikethrough).renderNode sink source document id).2.writer := by
  refine @Maintains.renderNode (fun state => holds state.writer) (fun hstate => hkept.check hstate)
    _ _ _ _ (fun hstate => hkept.flushLine hstate) (fun id _ => ?_) hsink id
  exact keeps_dispatch hadmissible hkept config strikethrough (hvalues id)

end Renderer

end MarkdownFormat
