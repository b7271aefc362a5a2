/-
# The lines of items

The marker of an item is a lead that waits for the item's first line. If a line ends inside
the item, the first that does has the marker, with the item's place in its list as the
number. An item without children ends a line of its own. But an item with children in which
no line ends takes its marker away before anything is written, and is lost.
-/

import MarkdownFormat.Proofs.Render.VisitLog
import MarkdownFormat.Proofs.Writer.Emission
import MarkdownFormat.Proofs.Writer.FirstLine

namespace MarkdownFormat

open WriterCall

namespace Document

/-- Items are the children of lists, and lists have no other children. -/
structure ItemsInLists (doc : Document) : Prop where
  root : doc.kind root ≠ .listItem
  children : ∀ id, ∀ child ∈ doc.children id, doc.kind child = .listItem ↔ doc.kind id = .list

instance (doc : Document) : Decidable doc.ItemsInLists :=
  decidable_of_iff
    (doc.kind root ≠ .listItem ∧ ∀ id < doc.size, ∀ child ∈ doc.children id,
      (doc.kind child = .listItem ↔ doc.kind id = .list))
    ⟨fun ⟨hroot, hchildren⟩ => ⟨hroot, fun id child hchild => by
      by_cases hid : id < doc.size
      · exact hchildren id hid child hchild
      · have hnone : doc.hasChildren id = false := by
          rw [hasChildren, node_of_size_le (Nat.le_of_not_lt hid)]
          rfl
        rw [children_eq_nil hnone] at hchild
        cases hchild⟩,
      fun h => ⟨h.root, fun id _ => h.children id⟩⟩

/-- An item stands in a list with the bullet, and has the number there if the list is
ordered. -/
def IsItem (doc : Document) (id : NodeId) (bullet : UInt8) (ordered : Bool) (number : Nat) :
    Prop :=
  ∃ list start position, (doc.node list).element = .list bullet ordered start ∧
    (doc.children list)[position]? = some id ∧ number = start + position

/-- Whether no list of the document counts as far as the bound, with the number that would be next
after its last item. -/
def CountsBelow (doc : Document) (bound : Nat) : Prop :=
  ∀ list bullet ordered start, (doc.node list).element = .list bullet ordered start →
    start + (doc.children list).length < bound

/-- Then all its items have numbers below the bound. -/
theorem IsItem.number_lt {doc : Document} {id : NodeId} {bullet : UInt8} {ordered : Bool}
    {number bound : Nat} (hitem : doc.IsItem id bullet ordered number)
    (hbound : doc.CountsBelow bound) : number < bound := by
  obtain ⟨list, start, position, helement, hplace, rfl⟩ := hitem
  obtain ⟨hposition, -⟩ := List.getElem?_eq_some_iff.mp hplace
  have hlist := hbound list bullet ordered start helement
  omega

end Document

/-- The marker of an item: its bullet, or its number and what follows it. -/
def ListItem.marker (bullet : UInt8) (ordered : Bool) (number : Nat) : List Char :=
  (if ordered then Digits.decimal number else []) ++ [Char.ofNat bullet.toNat]

/-- An open list whose next item has the number. -/
structure ListFrame.Expects (frame : ListFrame) (bullet : UInt8) (ordered : Bool)
    (number : Nat) : Prop where
  marker_eq : frame.marker = bullet
  ordered_eq : frame.ordered = ordered
  ordinal_eq : ordered → frame.ordinal = number

/-- The next item has the number that is expected, and the one behind it the next. -/
theorem ListFrame.Expects.next {frame : ListFrame} {bullet : UInt8} {ordered : Bool}
    {number : Nat} (hframe : frame.Expects bullet ordered number) :
    (ListItem.nextMarker frame).1 = ListItem.marker bullet ordered number ∧
      (ListItem.nextMarker frame).2.Expects bullet ordered (number + 1) := by
  obtain ⟨rfl, rfl, hordinal⟩ := hframe
  rw [ListItem.nextMarker, ListItem.marker]
  cases hordered : frame.ordered with
  | false => exact ⟨rfl, rfl, hordered, nofun⟩
  | true =>
      rw [hordinal hordered]
      exact ⟨rfl, rfl, rfl, fun _ => rfl⟩

/-- A writer with the two leads of an item, which stand on the line that comes next and on the
lines below it. -/
def LineWriter.pushItem (writer : LineWriter) (config : Config) (marker : List Char) :
    LineWriter :=
  let first := ListItem.firstLead marker
  (writer.pushLead first (.between 0 0)).pushLead (ListItem.laterLead config first) (.starting 1)

/-- What is delivered between entering an item and having left it. -/
structure Visit.Marks (doc : Document) (marker : List Char) (entered left : Visit RenderState) :
    Prop where
  /-- If the item has no children, or a line ends before it is left, the first line has the
  marker behind the leads that the item was entered with. -/
  marked : (doc.hasChildren entered.id →
      left.before.writer.sink.received ≠ entered.after.writer.sink.received) →
    ∃ rest lines, left.after.writer.sink.received.toList =
      entered.after.writer.sink.received.toList ++
        finished (leadBytes entered.before.writer.leads entered.after.writer.line ++
          (ListItem.firstLead marker ++ rest)) :: lines
  /-- Else the marker is gone when the line that may still be open is ended. -/
  unmarked : doc.hasChildren entered.id →
    left.before.writer.sink.received = entered.after.writer.sink.received →
    left.after.writer =
      { left.before.writer with leads := entered.before.writer.leads }.flushLine

/-- Each item that is entered is left again, with the lines that it is to have. -/
def ShowsItems (doc : Document) (log : List (Visit RenderState)) : Prop :=
  ∀ entered ∈ log, entered.phase = .enter → doc.kind entered.id = .listItem →
    ∃ bullet ordered number left, doc.IsItem entered.id bullet ordered number ∧
      entered.IsLeftBy log left ∧
      entered.Marks doc (ListItem.marker bullet ordered number) left

namespace ShowsItems

variable {doc : Document} {log later : List (Visit RenderState)}

/-- No visits show no items. -/
theorem nil : ShowsItems doc [] :=
  fun _ hmem => absurd hmem List.not_mem_nil

/-- What is shown in a part of a log is shown in the whole. -/
theorem mono (hlog : ShowsItems doc log) (hlater : log <:+: later) :
    ∀ entered ∈ log, entered.phase = .enter → doc.kind entered.id = .listItem →
      ∃ bullet ordered number left, doc.IsItem entered.id bullet ordered number ∧
        entered.IsLeftBy later left ∧
        entered.Marks doc (ListItem.marker bullet ordered number) left := by
  intro entered hmem henter hitem
  obtain ⟨bullet, ordered, number, left, hplace, ⟨hid, hexit, inside, hopen, hinside⟩, hmarks⟩ :=
    hlog entered hmem henter hitem
  exact ⟨bullet, ordered, number, left, hplace,
    ⟨hid, hexit, inside, hopen, hinside.trans hlater⟩, hmarks⟩

/-- Visits that show their items do so together. -/
theorem append (hlog : ShowsItems doc log) (hlater : ShowsItems doc later) :
    ShowsItems doc (log ++ later) := by
  intro entered hmem
  rcases List.mem_append.mp hmem with hmem | hmem
  · exact hlog.mono (List.prefix_append log later).isInfix entered hmem
  · exact hlater.mono (List.suffix_append log later).isInfix entered hmem

/-- A node shows the items below it, and itself if it is one. -/
theorem around {entered left : Visit RenderState} (hlog : ShowsItems doc log)
    (hexit : left.phase = .exit)
    (hitem : doc.kind entered.id = .listItem →
      ∃ bullet ordered number, doc.IsItem entered.id bullet ordered number ∧
        left.id = entered.id ∧ openAfter [] log = some [] ∧
        entered.Marks doc (ListItem.marker bullet ordered number) left) :
    ShowsItems doc (entered :: (log ++ [left])) := by
  intro visit hmem henter hkind
  rcases List.mem_cons.mp hmem with rfl | hmem
  · obtain ⟨bullet, ordered, number, hplace, hid, hopen, hmarks⟩ := hitem hkind
    exact ⟨bullet, ordered, number, left, hplace, ⟨hid, hexit, log, hopen, List.infix_rfl⟩, hmarks⟩
  · rcases List.mem_append.mp hmem with hmem | hmem
    · refine hlog.mono ?_ visit hmem henter hkind
      exact (List.prefix_append log [left]).isInfix.trans (List.suffix_cons entered _).isInfix
    · rw [List.mem_singleton.mp hmem, hexit] at henter
      cases henter

end ShowsItems

namespace Renderer

section Visits

variable {config : Config} {strikethrough : Bool} {scene : Scene} {id : NodeId}
  {before inner : RenderState}

/-- The visits to a node other than a list or an item leave the open lists alone. -/
theorem exists_visits (hlist : scene.document.kind id ≠ .list)
    (hitem : scene.document.kind id ≠ .listItem) (hfree : before.writer.Free) :
    let visit := (forMarkdown config strikethrough).visit scene id
    ∃ inside, visit .enter before = .ok .proceed inside ∧ inside.writer.Free ∧
      inside.lists = before.lists ∧
      ∀ inner : RenderState, inside.RestoredBy inner → inner.writer.Free →
        ∃ after, visit .exit inner = .ok .proceed after ∧ after.writer.Free ∧
          after.lists = inner.lists := by
  have hkeeps : ∀ phase,
      KeepsLists ((forMarkdown config strikethrough).dispatch scene id phase) := by
    intro phase
    have hlistFree : ListFree (fun _ => True) (fun _ => True)
        ((forMarkdown config strikethrough).dispatch scene id phase) :=
      .dispatch admissible_any (fun _ _ => trivial) config strikethrough hlist hitem
        fun _ _ => trivial
    exact hlistFree.keepsLists
  obtain ⟨inside, henter, hinside, hentered, hleave⟩ :=
    exists_visits_restored config strikethrough scene id hfree
  refine ⟨inside, henter, hinside, hkeeps .enter before _ inside hentered, ?_⟩
  intro inner hrestored hinner
  obtain ⟨after, hexit, hafter, hleft, -⟩ := hleave inner hrestored hinner
  exact ⟨after, hexit, hafter, hkeeps .exit inner _ after hleft⟩

/-- Entering a list opens it, and leaving it closes it. -/
theorem exists_visits_list {bullet : UInt8} {ordered : Bool} {start : Nat}
    (helement : (scene.node id).element = .list bullet ordered start)
    (hfree : before.writer.Free) :
    let visit := (forMarkdown config strikethrough).visit scene id
    ∃ inside, visit .enter before = .ok .proceed inside ∧ inside.writer.Free ∧
      inside.lists = ⟨bullet, ordered, start⟩ :: before.lists ∧
      ∀ inner : RenderState, inner.writer.Free → ∀ frame lists, inner.lists = frame :: lists →
        ∃ after, visit .exit inner = .ok .proceed after ∧ after.writer.Free ∧
          after.lists = lists := by
  have hkind : scene.document.kind id = .list := congrArg Element.kind helement
  have hrender : builtIn .list = some (asBlock Render.list) := rfl
  obtain ⟨written, lines, hrun, hwritten, -⟩ :=
    hfree.exists_brings_of_level ((level_separation scene id).append level_nil)
  have henter := performs_asBlock_enter (@performs_list_enter scene id before _ _ _ helement)
  rw [← @dispatch_forMarkdown config strikethrough _ _ _ _ hkind rfl hrender] at henter
  refine ⟨_, visit_of_performs henter hrun hwritten, hwritten, rfl, ?_⟩
  intro inner hinner frame lists hlists
  obtain ⟨left, lines, hrun, hleft, -⟩ :=
    hinner.exists_brings_of_level (level_nil.append level_flushLine)
  have hexit := performs_asBlock_exit (@performs_list_exit scene id inner _ _ hlists)
  rw [← @dispatch_forMarkdown config strikethrough _ _ _ _ hkind rfl hrender] at hexit
  exact ⟨_, visit_of_performs hexit hrun hleft, hleft, rfl⟩

/-- The writer of an item that is left: a line of its own if it has no children, then what is
left open without the leads of the item. -/
theorem run?_listItem_exit {writer : LineWriter} {first later : Lead} {leads : List Lead}
    (hleads : writer.leads = later :: first :: leads) (hasChildren : Bool) :
    writer.run? (((if !hasChildren then [.endLine] else []) ++ [.popLead, .popLead]) ++
        [.flushLine]) =
      some { (if hasChildren then writer else writer.endLine) with leads }.flushLine := by
  have hended : writer.endLine.leads = later :: first :: leads := by
    rw [LineWriter.endLine, LineWriter.leads_put, hleads]
  cases hasChildren with
  | true => simp [LineWriter.call?, LineWriter.popLead?, hleads]
  | false => simp [LineWriter.call?, LineWriter.popLead?, hended]

/-- Leaving an item marks its lines. -/
theorem marks_of_delivers {document : Document} {marker : List Char} {before inside inner after :
    RenderState} {lines : List Bytes} (hfree : inner.writer.Free)
    (hinner : inner.writer.leads = inside.writer.leads)
    (hlead : leadBytes inside.writer.leads inside.writer.line =
      leadBytes before.writer.leads inside.writer.line ++ ListItem.firstLead marker)
    (hlines : LineWriter.Delivers (leadBytes inside.writer.leads inside.writer.line) inside.writer
      inner.writer lines)
    (hafter : after.writer = { (if document.hasChildren id then inner.writer
      else inner.writer.endLine) with leads := before.writer.leads }.flushLine) :
    Visit.Marks document marker ⟨id, .enter, before, inside⟩ ⟨id, .exit, inner, after⟩ where
  unmarked := by
    intro hchildren _
    rw [hafter, if_pos hchildren]
  marked := by
    intro hended
    generalize hlast : (if document.hasChildren id then inner.writer else inner.writer.endLine) =
      ended at hafter
    have hends : ∃ all, LineWriter.Delivers (leadBytes inside.writer.leads inside.writer.line)
        inside.writer ended all ∧ all ≠ [] ∧ ended.Free := by
      rw [← hlast]
      split
      case isTrue hchildren =>
        exact ⟨lines, hlines, mt hlines.eq_nil_iff.mp (hended hchildren), hfree⟩
      case isFalse =>
        obtain ⟨own, hown⟩ := hfree.exists_delivers_put (List.nil_append _).symm [newline]
        refine ⟨lines ++ own, hlines.trans hown fun hline => by rw [hinner, hline], ?_, hfree.put _⟩
        have hcount := hown.line_eq
        have hless := hfree.line_lt_endLine
        rw [LineWriter.endLine] at hless
        intro hnone
        rw [(List.append_eq_nil_iff.mp hnone).2, List.length_nil, Nat.add_zero] at hcount
        exact absurd hcount (Nat.ne_of_gt hless)
    obtain ⟨all, hall, hsome, hendedFree⟩ := hends
    have hpopped : { ended with leads := before.writer.leads }.Free :=
      ⟨hendedFree.sound, hendedFree.unlimited⟩
    obtain ⟨-, later, hlater⟩ := hpopped.exists_delivers_flushLine (List.nil_append _).symm
    obtain ⟨line, others, rfl⟩ := List.exists_cons_of_ne_nil hsome
    obtain ⟨rest, hfirst⟩ := hall.first line rfl
    refine ⟨rest, others ++ later, ?_⟩
    rw [hafter, hlater.received]
    show ended.sink.received.toList ++ later = _
    rw [hall.received, hfirst, hlead]
    simp

/-- Entering an item puts up its two leads, on the line that comes next. -/
theorem exists_visit_item_enter {marker : List Char} {marked : RenderState}
    (hkind : scene.document.kind id = .listItem)
    (hmarker : Performs Render.itemMarker before [] marker marked) (hfree : before.writer.Free) :
    ∃ start : LineWriter, start.Free ∧ start.leads = before.writer.leads ∧
      (forMarkdown config strikethrough).visit scene id .enter before =
        .ok .proceed { marked with writer := start.pushItem scene.config marker } := by
  have hrender : builtIn .listItem = some (asBlock Render.listItem) := rfl
  obtain ⟨start, -, hrun, hstart, hleads, -⟩ :=
    hfree.exists_brings_of_level (level_separation scene id)
  have henter := performs_asBlock_enter (@performs_listItem_enter scene id _ _ _ hmarker)
  rw [← @dispatch_forMarkdown config strikethrough _ _ _ _ hkind rfl hrender] at henter
  refine ⟨start, hstart, hleads, visit_of_performs henter ?_ ⟨hstart.sound, hstart.unlimited⟩⟩
  rw [LineWriter.run?_append, hrun]
  rfl

/-- An item that is entered takes the next number of the innermost list. Leaving it marks its
lines. -/
theorem exists_visits_item {frame : ListFrame} {lists : List ListFrame} {bullet : UInt8}
    {ordered : Bool} {number : Nat} (hkind : scene.document.kind id = .listItem)
    (hlists : before.lists = frame :: lists) (hframe : frame.Expects bullet ordered number)
    (hfree : before.writer.Free) :
    let visit := (forMarkdown config strikethrough).visit scene id
    ∃ inside, visit .enter before = .ok .proceed inside ∧ inside.writer.Free ∧
      inside.lists = (ListItem.nextMarker frame).2 :: lists ∧
      ∀ inner lines, inner.writer.Free → inner.writer.leads = inside.writer.leads →
        LineWriter.Delivers (leadBytes inside.writer.leads inside.writer.line) inside.writer
          inner.writer lines →
        ∃ after, visit .exit inner = .ok .proceed after ∧ after.writer.Free ∧
          after.lists = inner.lists ∧
          Visit.Marks scene.document (ListItem.marker bullet ordered number)
            ⟨id, .enter, before, inside⟩ ⟨id, .exit, inner, after⟩ := by
  have hrender : builtIn .listItem = some (asBlock Render.listItem) := rfl
  obtain ⟨start, hstart, hleads, henter⟩ := @exists_visit_item_enter config strikethrough scene id
    before _ _ hkind (performs_itemMarker hlists) hfree
  rw [hframe.next.1] at henter
  let first := ListItem.firstLead (ListItem.marker bullet ordered number)
  refine ⟨_, henter, ⟨hstart.sound, hstart.unlimited⟩, rfl, ?_⟩
  intro inner lines hinner hsame hlines
  have hopened : inner.writer.leads = Lead.pushedOn start.line
      (ListItem.laterLead scene.config first) (.starting 1) ::
      Lead.pushedOn start.line first (.between 0 0) :: before.writer.leads := by
    rw [hsame, ← hleads]
    rfl
  have hleft := run?_listItem_exit hopened (scene.document.hasChildren id)
  have hexit := performs_asBlock_exit (@performs_listItem_exit scene id inner)
  rw [← @dispatch_forMarkdown config strikethrough _ _ _ _ hkind rfl hrender] at hexit
  have hleftFree := free_of_dispatch hinner (hexit inner.writer _ hleft)
  refine ⟨_, visit_of_performs hexit hleft hleftFree, hleftFree, rfl, ?_⟩
  refine marks_of_delivers hinner hsame ?_ hlines rfl
  rw [← hleads]
  exact leadBytes_item _ _ _ _

end Visits

section Walks

variable {config : Config} {strikethrough : Bool} {scene : Scene}

/-- What is shown of a node other than an item: the items below it have their lines, and the
open lists are as before. -/
def WalksOther (config : Config) (strikethrough : Bool) (scene : Scene) (depth : Nat)
    (id : NodeId) : Prop :=
  ∀ before : RenderState, before.writer.Free → scene.document.kind id ≠ .listItem →
    Logs (scene.document.walkTo ((forMarkdown config strikethrough).visit scene).logged depth id)
      before fun after visits => after.writer.Free ∧ after.lists = before.lists ∧
        ShowsItems scene.document visits

/-- What is shown of an item: that it has its lines, too, and counts in the innermost list if it
is visited. -/
def WalksItem (config : Config) (strikethrough : Bool) (scene : Scene) (depth : Nat)
    (id : NodeId) : Prop :=
  ∀ (before : RenderState) (frame : ListFrame) lists bullet ordered number,
    before.writer.Free → scene.document.kind id = .listItem →
    scene.document.IsItem id bullet ordered number → before.lists = frame :: lists →
    frame.Expects bullet ordered number →
    Logs (scene.document.walkTo ((forMarkdown config strikethrough).visit scene).logged depth id)
      before fun after visits => after.writer.Free ∧
        (∃ next : ListFrame, after.lists = next :: lists ∧
          (depth ≠ 0 → next.Expects bullet ordered (number + 1))) ∧
        ShowsItems scene.document visits

/-- Nodes other than items, one after the other. -/
theorem logs_others {depth : Nat} {ids : List NodeId} {before : RenderState}
    (hwalk : ∀ id ∈ ids, WalksOther config strikethrough scene depth id)
    (hitems : ∀ id ∈ ids, scene.document.kind id ≠ .listItem) (hfree : before.writer.Free) :
    let visit := (forMarkdown config strikethrough).visit scene
    Logs (Document.walkEach (scene.document.walkTo visit.logged depth) ids) before
      fun after visits => after.lists = before.lists ∧ ShowsItems scene.document visits := by
  induction ids generalizing before with
  | nil => exact .pure ⟨rfl, .nil⟩
  | cons id ids ih =>
      obtain ⟨hid, hids⟩ := List.forall_mem_cons.mp hwalk
      obtain ⟨hitem, hothers⟩ := List.forall_mem_cons.mp hitems
      apply (hid before hfree hitem).bind
      rintro middle visits ⟨hmiddle, hlists, hshows⟩ log
      obtain ⟨after, later, hok, hafter, hlater⟩ := ih hids hothers hmiddle log
      exact ⟨after, later, hok, hafter.trans hlists, hshows.append hlater⟩

/-- Items of a list, one after the other, from the one with the next number on. -/
theorem logs_items {depth : Nat} {ids : List NodeId} {bullet : UInt8} {ordered : Bool}
    {number : Nat} {before : RenderState} {frame : ListFrame} {lists : List ListFrame}
    (hwalk : ∀ id ∈ ids, WalksItem config strikethrough scene depth id)
    (hitems : ∀ id ∈ ids, scene.document.kind id = .listItem)
    (hplaces : ∀ (k : Nat) id, ids[k]? = some id →
      scene.document.IsItem id bullet ordered (number + k))
    (hlists : before.lists = frame :: lists) (hframe : frame.Expects bullet ordered number)
    (hfree : before.writer.Free) :
    let visit := (forMarkdown config strikethrough).visit scene
    Logs (Document.walkEach (scene.document.walkTo visit.logged depth) ids) before
      fun after visits => (∃ last, after.lists = last :: lists) ∧
        ShowsItems scene.document visits := by
  by_cases hdepth : depth = 0
  · intro visit log
    rw [hdepth]
    obtain ⟨after, visits, hok, rfl, rfl⟩ := logs_walkEach_zero visit.logged ids before log
    exact ⟨after, [], hok, ⟨frame, hlists⟩, .nil⟩
  induction ids generalizing before frame number with
  | nil => exact .pure ⟨⟨frame, hlists⟩, .nil⟩
  | cons id ids ih =>
      obtain ⟨hid, hids⟩ := List.forall_mem_cons.mp hwalk
      obtain ⟨hitem, hothers⟩ := List.forall_mem_cons.mp hitems
      have hlater : ∀ (k : Nat) id, ids[k]? = some id →
          scene.document.IsItem id bullet ordered (number + 1 + k) := by
        intro k later hk
        rw [Nat.add_assoc, Nat.add_comm 1]
        exact hplaces (k + 1) later hk
      apply (hid before frame lists bullet ordered number hfree hitem (hplaces 0 id rfl) hlists
        hframe).bind
      rintro middle visits ⟨hmiddle, ⟨next, hnext, hexpects⟩, hshows⟩ log
      obtain ⟨after, later, hok, hafter, hrest⟩ :=
        ih hids hothers hlater hnext (hexpects hdepth) hmiddle log
      exact ⟨after, later, hok, hafter, hshows.append hrest⟩

variable (hitems : scene.document.ItemsInLists)
include hitems

/-- One level more for a list: its items find it open, and count from its start. -/
theorem walksOther_list {depth : Nat} {id : NodeId} {bullet : UInt8} {ordered : Bool}
    {start : Nat} (helement : (scene.node id).element = .list bullet ordered start)
    (hwalk : ∀ id, WalksItem config strikethrough scene depth id) :
    WalksOther config strikethrough scene (depth + 1) id := by
  intro before hfree hother
  have hkind : scene.document.kind id = .list := congrArg Element.kind helement
  obtain ⟨inside, henter, hinside, hopened, hleave⟩ :=
    @exists_visits_list config strikethrough scene id before _ _ _ helement hfree
  have hchildren := @logs_items config strikethrough scene depth (scene.document.children id)
    bullet ordered start inside _ _ (fun child _ => hwalk child)
    (fun child hchild => (hitems.children id child hchild).mpr hkind)
    (fun k child hk => ⟨id, start, k, helement, hk, rfl⟩) hopened ⟨rfl, rfl, fun _ => rfl⟩ hinside
  refine .walkTo henter (hchildren.and (logs_walkEach config strikethrough hinside depth _)) ?_
  rintro middle visits ⟨⟨⟨last, hlast⟩, hshows⟩, hmiddle, -⟩
  obtain ⟨after, hexit, hafter, hlists⟩ := hleave middle hmiddle last before.lists hlast
  refine ⟨after, hexit, hafter, hlists, hshows.around rfl fun hitem => ?_⟩
  exact absurd hitem hother

/-- One level more for any other node. -/
theorem walksOther_other {depth : Nat} {id : NodeId} (hlist : scene.document.kind id ≠ .list)
    (hwalk : ∀ id, WalksOther config strikethrough scene depth id) :
    WalksOther config strikethrough scene (depth + 1) id := by
  intro before hfree hother
  obtain ⟨inside, henter, hinside, hsame, hleave⟩ :=
    @exists_visits config strikethrough scene id before hlist hother hfree
  have hchildren := @logs_others config strikethrough scene depth (scene.document.children id)
    inside (fun child _ => hwalk child)
    (fun child hchild => mt (hitems.children id child hchild).mp hlist) hinside
  refine .walkTo henter (hchildren.and (logs_walkEach config strikethrough hinside depth _)) ?_
  rintro middle visits ⟨⟨hlists, hshows⟩, hmiddle, hrestored, -, -⟩
  obtain ⟨after, hexit, hafter, hleft⟩ := hleave middle hrestored hmiddle
  refine ⟨after, hexit, hafter, hleft.trans (hlists.trans hsame),
    hshows.around rfl fun hitem => ?_⟩
  exact absurd hitem hother

/-- One level more for an item: its first line is the first that is delivered inside of it. -/
theorem walksItem {depth : Nat} {id : NodeId}
    (hwalk : ∀ id, WalksOther config strikethrough scene depth id) :
    WalksItem config strikethrough scene (depth + 1) id := by
  intro before frame lists bullet ordered number hfree hitem hplace hlists hframe
  have hlist : scene.document.kind id ≠ .list := by rw [hitem]; decide
  obtain ⟨inside, henter, hinside, hopened, hleave⟩ :=
    @exists_visits_item config strikethrough scene id before _ _ _ _ _ hitem hlists hframe hfree
  have hchildren := @logs_others config strikethrough scene depth (scene.document.children id)
    inside (fun child _ => hwalk child)
    (fun child hchild => mt (hitems.children id child hchild).mp hlist) hinside
  refine .walkTo henter (hchildren.and (logs_walkEach config strikethrough hinside depth _)) ?_
  rintro middle visits ⟨⟨hsame, hshows⟩, hmiddle, hrestored, hopen, pieces, hpieces⟩
  obtain ⟨after, hexit, hafter, hleft, hmarks⟩ :=
    hleave middle _ hmiddle hrestored.leads_eq hpieces.delivers
  refine ⟨after, hexit, hafter, ⟨_, hleft.trans (hsame.trans hopened), fun _ => hframe.next.2⟩, ?_⟩
  exact hshows.around rfl fun _ => ⟨bullet, ordered, number, hplace, rfl, hopen, hmarks⟩

/-- Walking a node shows the items below it. -/
theorem walks (depth : Nat) :
    (∀ id, WalksOther config strikethrough scene depth id) ∧
      ∀ id, WalksItem config strikethrough scene depth id := by
  induction depth with
  | zero =>
      refine ⟨fun id before hfree _ => .pure ⟨hfree, rfl, .nil⟩, ?_⟩
      exact fun id before frame lists _ _ _ hfree _ _ hlists _ =>
        .pure ⟨hfree, ⟨frame, hlists, fun hzero => absurd rfl hzero⟩, .nil⟩
  | succ depth ih =>
      refine ⟨fun id => ?_, fun id => walksItem hitems ih.1⟩
      cases helement : (scene.node id).element
      case list bullet ordered start => exact walksOther_list hitems helement ih.2
      all_goals
        refine walksOther_other hitems ?_ ih.1
        show (scene.node id).element.kind ≠ _
        rw [helement]
        simp [Element.kind]

end Walks

/-- So the visits of a whole rendering show the items of the document. -/
theorem showsItems_visits (config : Config) (strikethrough : Bool) (source : Bytes)
    {document : Document} (hitems : document.ItemsInLists) :
    ShowsItems document
      ((forMarkdown config strikethrough).visits .unlimited source document Document.root) := by
  let renderer := forMarkdown config strikethrough
  let scene : Scene := ⟨source, document, renderer.config⟩
  have hfree : (LineWriter.onto .unlimited).Free := LineWriter.onto_free rfl
  obtain ⟨after, visits, hwalk, -, -, hshows⟩ :=
    (@walks config strikethrough scene hitems document.size).1 Document.root
      { writer := .onto .unlimited } hfree hitems.root []
  have hlog : renderer.visits .unlimited source document Document.root = visits := by
    rw [Renderer.visits.eq_1, Document.walk, hwalk]
    rfl
  exact hlog ▸ hshows

/-- Rendering a document with its items in lists leaves every item that it enters. If the item
has no children, or a line ends inside of it, its first line has its own marker, with the number
that its place in the list gives it. If not, the marker is taken away before anything is
written. Where no list counts as far as `UInt64.size`, 64 bits hold the number. -/
theorem render_items (config : Config) (strikethrough : Bool) (source : Bytes)
    {document : Document} (hitems : document.ItemsInLists) :
    let log := (forMarkdown config strikethrough).visits .unlimited source document Document.root
    ∀ entered ∈ log, entered.phase = .enter → document.kind entered.id = .listItem →
      ∃ bullet ordered number left, document.IsItem entered.id bullet ordered number ∧
        entered.IsLeftBy log left ∧
        entered.Marks document (ListItem.marker bullet ordered number) left ∧
        (document.CountsBelow UInt64.size → number < UInt64.size) := by
  intro log entered hmem henter hkind
  obtain ⟨bullet, ordered, number, left, hitem, hleft, hmarks⟩ :=
    showsItems_visits config strikethrough source hitems entered hmem henter hkind
  exact ⟨bullet, ordered, number, left, hitem, hleft, hmarks, hitem.number_lt⟩

/-- A list of three items, the second of them with nothing in it and the third with a list of
its own. -/
def threeItems : Document :=
  ⟨#[{ element := .document, firstChild := some 1, lastChild := some 1 },
    { element := .list 0x2E true 9, parent := some 0, firstChild := some 2,
      lastChild := some 5 },
    { element := .listItem, parent := some 1, firstChild := some 3, lastChild := some 3,
      next := some 4 },
    { element := .thematicBreak, parent := some 2 },
    { element := .listItem, parent := some 1, previous := some 2, next := some 5 },
    { element := .listItem, parent := some 1, previous := some 4, firstChild := some 6,
      lastChild := some 6 },
    { element := .list 0x2B false 1, parent := some 5, firstChild := some 7,
      lastChild := some 7 },
    { element := .listItem, parent := some 6 }]⟩

/-- The marker of the third item stands on the line of the item inside of it. -/
theorem render_items_three :
    let renderer := forMarkdown {} true
    let log := renderer.visits .unlimited [] threeItems Document.root
    threeItems.ItemsInLists ∧
      (renderer.render .unlimited [] threeItems).2.writer.sink.received =
        #[Utf8.ofString "9. ---\n", Utf8.ofString "10.\n", Utf8.ofString "11. +\n"] ∧
      ∃ entered ∈ log, entered.phase = .enter ∧ entered.id = 5 ∧
        ∃ bullet ordered number left, threeItems.IsItem 5 bullet ordered number ∧
          entered.IsLeftBy log left ∧
          entered.Marks threeItems (ListItem.marker bullet ordered number) left := by
  intro renderer log
  have hitems : threeItems.ItemsInLists := by decide +kernel
  have hfound : (log.find? fun visit => visit.phase = .enter && visit.id = 5).isSome := by
    decide +kernel
  obtain ⟨entered, hentered⟩ := Option.isSome_iff_exists.mp hfound
  have hmem := List.mem_of_find?_eq_some hentered
  have hvisit : entered.phase = .enter ∧ entered.id = 5 := by
    simpa using List.find?_some hentered
  have hkind : threeItems.kind entered.id = .listItem := by
    rw [hvisit.2]
    rfl
  obtain ⟨bullet, ordered, number, left, hitem, hleft, hmarks, -⟩ :=
    render_items {} true [] hitems entered hmem hvisit.1 hkind
  rw [hvisit.2] at hitem
  exact ⟨hitems, by decide +kernel, entered, hmem, hvisit.1, hvisit.2, bullet, ordered, number,
    left, hitem, hleft, hmarks⟩

/-- A numbered list of three items, the second of them with an empty quote in it. -/
def emptyQuote : Document :=
  ⟨#[{ element := .document, firstChild := some 1, lastChild := some 1 },
    { element := .list 0x2E true 1, parent := some 0, firstChild := some 2,
      lastChild := some 6 },
    { element := .listItem, parent := some 1, firstChild := some 3, lastChild := some 3,
      next := some 4 },
    { element := .thematicBreak, parent := some 2 },
    { element := .listItem, parent := some 1, previous := some 2, firstChild := some 5,
      lastChild := some 5, next := some 6 },
    { element := .blockquote, parent := some 4 },
    { element := .listItem, parent := some 1, previous := some 4, firstChild := some 7,
      lastChild := some 7 },
    { element := .thematicBreak, parent := some 6 }]⟩

/-- An item that holds an empty quote is lost, and its number with it. -/
theorem not_forall_render_items : ¬ ∀ (document : Document) (list : NodeId) (start position : Nat)
    (id : NodeId), document.ItemsInLists → list ∈ document.children Document.root →
    (document.node list).element = .list 0x2E true start →
    (document.children list)[position]? = some id →
    (((standard {}).visits .unlimited [] document Document.root).any fun visit =>
      visit.phase = .enter && visit.id = id) →
    (((standard {}).render .unlimited [] document).2.writer.sink.received.any fun line =>
      (Utf8.encode (Digits.decimal (start + position) ++ ['.'])).isPrefixOf line) := by
  intro hall
  have hnumber := hall emptyQuote 1 1 1 4 (by decide +kernel) (by decide +kernel) rfl
    (by decide +kernel) (by decide +kernel)
  exact absurd hnumber (by decide +kernel)

end Renderer

end MarkdownFormat
