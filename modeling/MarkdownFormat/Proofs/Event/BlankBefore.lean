/-
# Where blank lines are kept

A block is marked as preceded by blank lines when it is opened, by looking at the source
behind the furthest end of content inside the block before it. These ends are recorded
while the events are taken in. Once a node has a neighbour behind it, it is closed for
good, so what has been recorded for it then is what all events together come to.
`Assembly.Recorded` says so of the events up to any point, and every event keeps it.
-/

import MarkdownFormat.Proofs.Document.History
import MarkdownFormat.Proofs.Event.BlankLine
import MarkdownFormat.Proofs.Event.Steps

namespace MarkdownFormat

/-- Neighbours that blank lines keep apart whatever the source is: a heading and any block
but a text block, and a paragraph and a thematic break. -/
def Kind.KeepsApart (previous kind : Kind) : Prop :=
  (previous = .heading ∨ kind = .heading) ∧ previous ≠ .textBlock ∧ kind ≠ .textBlock ∨
    previous = .paragraph ∧ kind = .thematicBreak

/-- Where a node starts in the source. -/
def Document.start (doc : Document) (id : NodeId) : Nat :=
  ((doc.node id).range.map Segment.start).getD 0

/-- A range inside of the source starts there. -/
theorem Segment.start_le_of_isWithin {source : Bytes} {range : Segment}
    (hrange : range.isWithin source) : range.start ≤ source.length := by
  simp only [Segment.isWithin, Bool.and_eq_true, decide_eq_true_eq] at hrange
  exact Nat.le_trans hrange.1 hrange.2

/-- A text does not begin behind where it is reported to begin. -/
theorem Spelling.textStart?_le {source : Bytes} {start first : Nat}
    (hfirst : textStart? source start = some first) : first ≤ start := by
  unfold textStart? at hfirst
  split at hfirst
  · cases hfirst
    exact Nat.le_refl _
  · split at hfirst
    · cases hfirst
    · split at hfirst
      · cases hfirst
        exact Nat.le_succ _
      · cases hfirst
        exact Nat.le_refl _

namespace Assembly

open Document (root)

/-- Whether the end of the innermost open node is content: that of a heading or of a fenced
code block. -/
def endIsContent (a : Assembly) : EndTag → Bool
  | .heading => true
  | .codeBlock => a.topElement.kind = .fencedCodeBlock
  | .htmlBlock | .other => false

/-- Whether an event is content: a text that no autolink leaves out, code, HTML or a rule,
or the end of a node that is. -/
def isContent (a : Assembly) : Event → Bool
  | .text _ => a.code.isSome || a.topElement.kind ≠ .autoLink
  | .code _ | .html _ | .inlineHtml _ | .rule => true
  | .closed tag => a.closeTextBlock.endIsContent tag
  | .opened _ | .softBreak | .hardBreak | .other => false

/-- The nodes that are open while an event is taken in. What it closes is one of them, but
a text block is closed before, and so is a rule, which is open for itself only. -/
def openDuring (source : Bytes) (a : Assembly) (placed : PlacedEvent) : List NodeId :=
  match placed.event with
  | .closed _ => a.closeTextBlock.openNodes ++ [root]
  | .rule => a.document.size :: (a.closeTextBlock.openNodes ++ [root])
  | _ => (a.take source placed).openNodes ++ [root]

/-- The ends of all events that are content inside a node. -/
def contentStops (source : Bytes) (id : NodeId) : Assembly → List PlacedEvent → List Nat
  | _, [] => []
  | a, placed :: rest =>
      let later := contentStops source id (take source a placed) rest
      if a.isContent placed.event ∧ id ∈ a.openDuring source placed then
        placed.range.stop :: later
      else later

/-- It does not matter for a text block whether its last text goes on. -/
theorem closeTextBlock_settle (a : Assembly) :
    a.settle.closeTextBlock = a.closeTextBlock.settle := by
  have htop : a.settle.topElement = a.topElement := rfl
  rw [closeTextBlock, closeTextBlock, htop]
  split <;> rfl

/-- Content lines are no part of an element. -/
theorem topElement_setLines {a : Assembly} (lines : List Value) :
    (a.setLines lines).topElement = a.topElement := by
  show ((a.document.modify a.top ({ · with lines })).node a.top).element = _
  rw [Document.node_modify, topElement]
  split <;> rfl

/-- Blank lines are kept between two neighbours, going by the furthest end of content that
is recorded for the first. -/
def IsApart (source : Bytes) (a : Assembly) (previous id : NodeId) : Prop :=
  (a.document.kind previous).KeepsApart (a.document.kind id) ∨
    Spelling.hasBlankLine source (a.contentEnd.getD previous 0) (a.document.start id)

/-- The ends of content recorded for the nodes are the given ones, and the marks of the
nodes go by them. -/
structure Recorded (source : Bytes) (a : Assembly) (stops : NodeId → List Nat) : Prop where
  /-- Each open node is younger than those around it. -/
  sorted : (a.openNodes ++ [root]).Pairwise fun inner upper => upper < inner
  open_lt : ∀ id ∈ a.openNodes ++ [root], id < a.document.size
  lastChild_lt : ∀ id last, (a.document.node id).lastChild = some last →
    id < last ∧ last < a.document.size
  /-- A node that has a neighbour behind it is older and closed. -/
  previous_lt : ∀ id previous, (a.document.node id).previous = some previous →
    previous < id ∧ previous ∉ a.openNodes ++ [root]
  start_le : ∀ id, a.document.start id ≤ source.length
  size_contentEnd : a.contentEnd.size = a.document.size
  contentEnd_eq : ∀ id < a.document.size,
    a.contentEnd.getD id 0 = (stops id).foldl max (a.document.start id)
  stops_eq_nil : ∀ id, a.document.size ≤ id → stops id = []
  blankBefore_iff : ∀ id, (a.document.node id).blankBefore ↔
    (a.document.kind id).isBlock ∧
      ∃ previous, (a.document.node id).previous = some previous ∧ a.IsApart source previous id
  astray_eq : a.astray = false

/-- A blank line is looked for behind the content of the last child, unless the two blocks have to
be kept apart anyway. -/
theorem blankBefore_eq_iff {source : Bytes} {a : Assembly} {parent : NodeId} {start : Nat}
    {kind : Kind} :
    a.blankBefore source parent start kind ↔
      ∃ previous, (a.document.node parent).lastChild = some previous ∧
        ((a.document.kind previous).KeepsApart kind ∨
          Spelling.hasBlankLine source (a.contentEnd.getD previous 0) start) := by
  rw [blankBefore]
  cases hlast : (a.document.node parent).lastChild with
  | none => simp
  | some previous =>
      have hkinds : (a.document.kind previous).KeepsApart kind ↔
          ((kind = .heading ∨ a.document.kind previous = .heading) ∧ kind ≠ .textBlock) ∧
              a.document.kind previous ≠ .textBlock ∨
            kind = .thematicBreak ∧ a.document.kind previous = .paragraph := by
        rw [Kind.KeepsApart]
        tauto
      simp only [Option.some.injEq, exists_eq_left', hkinds, Bool.and_eq_true, Bool.or_eq_true,
        decide_eq_true_eq]
      split
      · next hheading => exact iff_of_true rfl (.inl (.inl hheading))
      · next hheading =>
          split
          · next hrule => exact iff_of_true rfl (.inl (.inr hrule))
          · next hrule => rw [or_iff_right (not_or.mpr ⟨hheading, hrule⟩)]

/-- What is recorded once an event has come to its end, if it is content. -/
def extend (stops : NodeId → List Nat) (isContent : Bool) (nodes : List NodeId) (stop : Nat)
    (id : NodeId) : List Nat :=
  stops id ++ if isContent ∧ id ∈ nodes then [stop] else []

@[simp]
theorem extend_false (stops : NodeId → List Nat) (nodes : List NodeId) (stop : Nat) :
    extend stops false nodes stop = stops := by
  funext id
  simp [extend]

/-- Two documents have a node with the same neighbour before it, the same last child, kind
and start and the same mark. -/
def SameMark (doc changed : Document) (id : NodeId) : Prop :=
  (changed.node id).previous = (doc.node id).previous ∧
    (changed.node id).lastChild = (doc.node id).lastChild ∧
    changed.kind id = doc.kind id ∧ changed.start id = doc.start id ∧
    (changed.node id).blankBefore = (doc.node id).blankBefore

/-- Nodes get the end of a content if it is further than the one they have. -/
theorem touched (ids : List NodeId) (ends : Array Nat) (stop : Nat) :
    let touched := ids.foldl (fun ends id => ends.modify id (max · stop)) ends
    touched.size = ends.size ∧ ∀ k, touched.getD k 0 =
      if k ∈ ids ∧ k < ends.size then max (ends.getD k 0) stop else ends.getD k 0 := by
  induction ids generalizing ends with
  | nil => simp
  | cons id ids ih =>
      obtain ⟨hsize, hgetD⟩ := ih (ends.modify id (max · stop))
      rw [Array.size_modify] at hsize hgetD
      refine ⟨hsize, fun k => ?_⟩
      have hself : (ends.modify id (max · stop)).getD k 0 =
          if k = id ∧ k < ends.size then max (ends.getD k 0) stop else ends.getD k 0 := by
        simp only [Array.getD_eq_getD_getElem?, Array.getElem?_modify]
        by_cases hk : k = id
        · by_cases hlt : k < ends.size <;> simp [hk.symm, hlt]
        · simp [hk, Ne.symm hk]
      rw [List.foldl_cons, hgetD, hself]
      by_cases hlt : k < ends.size
      · by_cases hk : k = id <;> by_cases hmem : k ∈ ids <;> grind
      · simp [hlt]

namespace Recorded

variable {source : Bytes} {a b : Assembly} {stops : NodeId → List Nat}
  (hrecorded : a.Recorded source stops)
include hrecorded

/-- The mark of a node goes on being right while its neighbour before and what is recorded for
that one are as they were. -/
theorem blankBefore_iff_congr {id : NodeId}
    (hprevious : (b.document.node id).previous = (a.document.node id).previous)
    (hkind : b.document.kind id = a.document.kind id)
    (hblank : (b.document.node id).blankBefore = (a.document.node id).blankBefore)
    (hapart : ∀ previous, (a.document.node id).previous = some previous →
      (b.IsApart source previous id ↔ a.IsApart source previous id)) :
    (b.document.node id).blankBefore ↔ (b.document.kind id).isBlock ∧
      ∃ previous, (b.document.node id).previous = some previous ∧
        b.IsApart source previous id := by
  rw [hprevious, hkind, hblank]
  exact (hrecorded.blankBefore_iff id).trans (and_congr_right' (exists_congr fun previous =>
    and_congr_right fun hfound => (hapart previous hfound).symm))

/-- Open nodes, ends of content, and the place and mark of each node are all that counts. -/
theorem congr (hopenNodes : b.openNodes = a.openNodes) (hends : b.contentEnd = a.contentEnd)
    (hastray : b.astray = a.astray) (hsize : b.document.size = a.document.size)
    (hsame : ∀ id, SameMark a.document b.document id) : b.Recorded source stops where
  sorted := hopenNodes ▸ hrecorded.sorted
  open_lt := by
    rw [hopenNodes, hsize]
    exact hrecorded.open_lt
  lastChild_lt id := by
    rw [(hsame id).2.1, hsize]
    exact hrecorded.lastChild_lt id
  previous_lt id := by
    rw [(hsame id).1, hopenNodes]
    exact hrecorded.previous_lt id
  start_le id := by
    rw [(hsame id).2.2.2.1]
    exact hrecorded.start_le id
  size_contentEnd := by rw [hends, hsize, hrecorded.size_contentEnd]
  contentEnd_eq id := by
    rw [hends, hsize, (hsame id).2.2.2.1]
    exact hrecorded.contentEnd_eq id
  stops_eq_nil id := by
    rw [hsize]
    exact hrecorded.stops_eq_nil id
  blankBefore_iff id := by
    obtain ⟨hprevious, -, hkind, hstart, hblank⟩ := hsame id
    refine hrecorded.blankBefore_iff_congr hprevious hkind hblank fun previous _ => ?_
    rw [IsApart, IsApart, (hsame previous).2.2.1, hkind, hends, hstart]
  astray_eq := hastray.trans hrecorded.astray_eq

/-- What is remembered beside the document does not matter. -/
theorem of_document_eq (hopenNodes : b.openNodes = a.openNodes)
    (hends : b.contentEnd = a.contentEnd) (hastray : b.astray = a.astray)
    (hdocument : b.document = a.document) : b.Recorded source stops :=
  hrecorded.congr hopenNodes hends hastray (by rw [hdocument])
    fun _ => by rw [hdocument]; exact ⟨rfl, rfl, rfl, rfl, rfl⟩

/-- Changing the value or the lines of a node is of no concern. -/
theorem modify (id : NodeId) {change : Node → Node}
    (hchange : SameMark a.document (a.document.modify id change) id) :
    Recorded source { a with document := a.document.modify id change } stops := by
  refine hrecorded.congr rfl rfl rfl (Document.size_modify id change) fun k => ?_
  by_cases hk : k = id
  · rw [hk]
    exact hchange
  · have hnode : (a.document.modify id change).node k = a.document.node k :=
      Document.node_modify_of_ne hk change
    rw [SameMark, Document.kind, Document.kind, Document.start, Document.start]
    rw [hnode]
    exact ⟨rfl, rfl, rfl, rfl, rfl⟩

/-- The last child of the innermost open node is closed. -/
theorem lastChild_top {last : NodeId} (hlast : (a.document.node a.top).lastChild = some last) :
    last ∉ a.openNodes ++ [root] := by
  have hlt := (hrecorded.lastChild_lt _ _ hlast).1
  have hsorted := hrecorded.sorted
  rw [openNodes_eq_top_cons] at hsorted ⊢
  intro hmem
  rcases List.mem_cons.mp hmem with rfl | hmem
  · exact Nat.lt_irrefl _ hlt
  · exact Nat.lt_asymm hlt (List.rel_of_pairwise_cons hsorted hmem)

/-- The innermost open node is there. -/
theorem top_lt_size : a.top < a.document.size :=
  hrecorded.open_lt a.top (by rw [openNodes_eq_top_cons]; exact List.mem_cons_self)

/-- Neighbours are there. -/
theorem size_of_previous {id previous : NodeId}
    (hprevious : (a.document.node id).previous = some previous) :
    id < a.document.size ∧ previous < a.document.size := by
  have hid : id < a.document.size := by
    refine Nat.not_le.mp fun hid => ?_
    rw [Document.node_of_size_le hid] at hprevious
    cases hprevious
  exact ⟨hid, Nat.lt_trans (hrecorded.previous_lt _ _ hprevious).1 hid⟩

section Add

variable {parent : NodeId} (hparent : parent < a.document.size) (element : Element)
  (range : Segment) (blankBefore : Bool)
include hparent

/-- A node that is added has its own mark, and its parent another last child. -/
theorem marks_add (k : NodeId) :
    let added := (a.add parent element range blankBefore).document
    ((added.node k).previous =
      if k = a.document.size then (a.document.node parent).lastChild
      else (a.document.node k).previous) ∧
    ((added.node k).lastChild =
      if k = parent then some a.document.size else (a.document.node k).lastChild) ∧
    (added.kind k = if k = a.document.size then element.kind else a.document.kind k) ∧
    (added.start k = if k = a.document.size then range.start else a.document.start k) ∧
    ((added.node k).blankBefore =
      if k = a.document.size then blankBefore else (a.document.node k).blankBefore) := by
  intro added
  have hnode := Document.node_appendNew hparent
    (fun last hfound => ⟨(hrecorded.lastChild_lt _ _ hfound).2,
      Nat.ne_of_gt (hrecorded.lastChild_lt _ _ hfound).1⟩) element range blankBefore k
  have hdocument : added = a.document.appendNew parent element range blankBefore :=
    document_add _ _ _ _
  simp only [Document.kind, Document.start, hdocument, hnode]
  by_cases hk : k = a.document.size
  · have hne : a.document.size ≠ parent := Nat.ne_of_gt hparent
    have hnone : (a.document.node a.document.size).lastChild = none := by
      rw [Document.node_of_size_le (Nat.le_refl _)]
    simp [hk, hne, hnone]
  · by_cases hkparent : k = parent
    · simp [hkparent, Nat.ne_of_lt hparent]
    · simp only [if_neg hk, if_neg hkparent]
      split <;> exact ⟨rfl, rfl, rfl, rfl, rfl⟩

omit hparent in
/-- A new node does not change the ends that are recorded. -/
theorem getD_contentEnd_add : ∀ k < a.document.size,
    (a.add parent element range blankBefore).contentEnd.getD k 0 = a.contentEnd.getD k 0 := by
  intro k hk
  rw [← hrecorded.size_contentEnd] at hk
  simp [Assembly.add, Array.getD_eq_getD_getElem?, Array.getElem?_push, Nat.ne_of_lt hk]

/-- What is recorded for the nodes that were there before is as it was. -/
theorem isApart_add : ∀ previous < a.document.size, ∀ k,
    (a.add parent element range blankBefore).IsApart source previous k ↔
      (a.document.kind previous).KeepsApart
          (if k = a.document.size then element.kind else a.document.kind k) ∨
        Spelling.hasBlankLine source (a.contentEnd.getD previous 0)
          (if k = a.document.size then range.start else a.document.start k) := by
  intro previous hprevious k
  have hmarks := hrecorded.marks_add hparent element range blankBefore
  rw [IsApart, hrecorded.getD_contentEnd_add element range blankBefore previous hprevious,
    (hmarks previous).2.2.1, if_neg (Nat.ne_of_lt hprevious), (hmarks k).2.2.1,
    (hmarks k).2.2.2.1]

/-- A node that is added behind a closed last child is recorded with its start. -/
theorem add
    (hlast : ∀ last, (a.document.node parent).lastChild = some last →
      last ∉ a.openNodes ++ [root])
    (hrange : range.start ≤ source.length)
    (hblank : blankBefore ↔ element.kind.isBlock ∧
      ∃ previous, (a.document.node parent).lastChild = some previous ∧
        ((a.document.kind previous).KeepsApart element.kind ∨
          Spelling.hasBlankLine source (a.contentEnd.getD previous 0) range.start)) :
    (a.add parent element range blankBefore).Recorded source stops := by
  have hmarks := hrecorded.marks_add hparent element range blankBefore
  have hapart := hrecorded.isApart_add hparent element range blankBefore
  have hgetD : ∀ k < a.document.size,
      (a.add parent element range blankBefore).contentEnd.getD k 0 = a.contentEnd.getD k 0 :=
    hrecorded.getD_contentEnd_add element range blankBefore
  have hends : (a.add parent element range blankBefore).contentEnd =
      a.contentEnd.push range.start := by rw [Assembly.add]
  have hastray : (a.add parent element range blankBefore).astray = a.astray := by
    rw [Assembly.add]
  have hopenNodes : (a.add parent element range blankBefore).openNodes = a.openNodes :=
    openNodes_add _ _ _ _
  have hsize : (a.add parent element range blankBefore).document.size = a.document.size + 1 := by
    rw [document_add, Document.size_appendNew]
  generalize a.add parent element range blankBefore = added at *
  exact {
    sorted := hopenNodes ▸ hrecorded.sorted
    open_lt := by
      rw [hopenNodes, hsize]
      exact fun id hid => Nat.lt_succ_of_lt (hrecorded.open_lt id hid)
    lastChild_lt := by
      intro id last hfound
      rw [(hmarks id).2.1] at hfound
      rw [hsize]
      split at hfound
      · next heq =>
          cases hfound
          exact ⟨heq ▸ hparent, Nat.lt_succ_self _⟩
      · have hlt := hrecorded.lastChild_lt id last hfound
        exact ⟨hlt.1, Nat.lt_succ_of_lt hlt.2⟩
    previous_lt := by
      intro id previous hprevious
      rw [(hmarks id).1] at hprevious
      rw [hopenNodes]
      split at hprevious
      · next heq => exact ⟨heq ▸ (hrecorded.lastChild_lt _ _ hprevious).2, hlast _ hprevious⟩
      · exact hrecorded.previous_lt id previous hprevious
    start_le := by
      intro id
      rw [(hmarks id).2.2.2.1]
      split
      · exact hrange
      · exact hrecorded.start_le id
    size_contentEnd := by rw [hends, Array.size_push, hrecorded.size_contentEnd, hsize]
    contentEnd_eq := by
      intro id hid
      rw [(hmarks id).2.2.2.1]
      split
      · next heq =>
          rw [heq, hrecorded.stops_eq_nil _ (Nat.le_refl _), List.foldl_nil, hends,
            ← hrecorded.size_contentEnd]
          simp [Array.getD_eq_getD_getElem?]
      · next hne =>
          have hid : id < a.document.size :=
            Nat.lt_of_le_of_ne (Nat.lt_succ_iff.mp (Nat.lt_of_lt_of_eq hid hsize)) hne
          rw [hgetD id hid]
          exact hrecorded.contentEnd_eq id hid
    stops_eq_nil := fun id hid => hrecorded.stops_eq_nil id
      (Nat.le_of_succ_le (Nat.le_trans (Nat.le_of_eq hsize.symm) hid))
    blankBefore_iff := by
      intro id
      by_cases hid : id = a.document.size
      · simp only [(hmarks id).1, (hmarks id).2.2.1, (hmarks id).2.2.2.2, if_pos hid]
        refine hblank.trans (and_congr_right' (exists_congr fun previous =>
          and_congr_right fun hfound => ?_))
        rw [hapart previous (hrecorded.lastChild_lt _ _ hfound).2, if_pos hid, if_pos hid]
      · have hsame := hmarks id
        simp only [if_neg hid] at hsame
        obtain ⟨hprevious, -, hkind, -, hmark⟩ := hsame
        refine hrecorded.blankBefore_iff_congr hprevious hkind hmark fun previous hfound => ?_
        rw [hapart previous (hrecorded.size_of_previous hfound).2, if_neg hid, if_neg hid,
          IsApart]
    astray_eq := hastray.trans hrecorded.astray_eq }

end Add

/-- Content reaches all open nodes. -/
theorem touch (stop : Nat) :
    (a.touch stop).Recorded source (extend stops true (a.openNodes ++ [root]) stop) := by
  obtain ⟨hsize, hgetD⟩ := touched (a.openNodes ++ [root]) a.contentEnd stop
  have hends : (a.touch stop).contentEnd =
      (a.openNodes ++ [root]).foldl (fun ends id => ends.modify id (max · stop)) a.contentEnd := by
    rw [Assembly.touch]
  rw [← hends] at hsize hgetD
  have hopenNodes : (a.touch stop).openNodes = a.openNodes := openNodes_touch stop
  have hdocument : (a.touch stop).document = a.document := document_touch stop
  have hastray : (a.touch stop).astray = a.astray := by rw [Assembly.touch]
  generalize a.touch stop = touched at *
  exact {
    sorted := hopenNodes ▸ hrecorded.sorted
    open_lt := by
      rw [hopenNodes, hdocument]
      exact hrecorded.open_lt
    lastChild_lt := hdocument ▸ hrecorded.lastChild_lt
    previous_lt := by
      rw [hdocument, hopenNodes]
      exact hrecorded.previous_lt
    start_le := hdocument ▸ hrecorded.start_le
    size_contentEnd := by rw [hsize, hdocument, hrecorded.size_contentEnd]
    contentEnd_eq := by
      rw [hdocument]
      intro id hid
      rw [hgetD, hrecorded.size_contentEnd, hrecorded.contentEnd_eq id hid]
      by_cases hmem : id ∈ a.openNodes ++ [root]
      · simp [extend, hmem, hid]
      · simp [extend, hmem]
    stops_eq_nil := by
      rw [hdocument]
      intro id hid
      have hclosed : id ∉ a.openNodes ++ [root] := fun hmem =>
        Nat.not_lt.mpr hid (hrecorded.open_lt id hmem)
      rw [extend, hrecorded.stops_eq_nil id hid, if_neg fun h => hclosed h.2]
      rfl
    blankBefore_iff := by
      intro id
      refine hrecorded.blankBefore_iff_congr (by rw [hdocument]) (by rw [hdocument])
        (by rw [hdocument]) fun previous hfound => ?_
      -- The neighbour before is closed, so its end stays.
      rw [IsApart, IsApart, hgetD, if_neg fun h => (hrecorded.previous_lt _ _ hfound).2 h.1,
        hdocument]
    astray_eq := hastray.trans hrecorded.astray_eq }

/-- The youngest node can be opened. -/
theorem push {id : NodeId} (hid : a.document.size = id + 1)
    (hopen : ∀ upper ∈ a.openNodes ++ [root], upper < id) :
    (a.push id).Recorded source stops where
  sorted := List.pairwise_cons.mpr ⟨hopen, hrecorded.sorted⟩
  open_lt := List.forall_mem_cons.mpr ⟨Nat.lt_of_lt_of_eq (Nat.lt_succ_self _) hid.symm,
    hrecorded.open_lt⟩
  lastChild_lt := hrecorded.lastChild_lt
  previous_lt := by
    intro lower previous hprevious
    have hlt := hrecorded.previous_lt lower previous hprevious
    have hlower : lower ≤ id :=
      Nat.lt_succ_iff.mp (Nat.lt_of_lt_of_eq (hrecorded.size_of_previous hprevious).1 hid)
    refine ⟨hlt.1, fun hmem => ?_⟩
    rcases List.mem_cons.mp hmem with heq | hmem
    · exact Nat.ne_of_lt (Nat.lt_of_lt_of_le hlt.1 hlower) heq
    · exact hlt.2 hmem
  start_le := hrecorded.start_le
  size_contentEnd := hrecorded.size_contentEnd
  contentEnd_eq := hrecorded.contentEnd_eq
  stops_eq_nil := hrecorded.stops_eq_nil
  blankBefore_iff := hrecorded.blankBefore_iff
  astray_eq := hrecorded.astray_eq

/-- A node that has just been added can be opened. -/
theorem push_add {parent : NodeId} {element : Element} {range : Segment} {blankBefore : Bool}
    (hadded : (a.add parent element range blankBefore).Recorded source stops) :
    ((a.add parent element range blankBefore).push a.document.size).Recorded source stops := by
  apply hadded.push
  · rw [document_add, Document.size_appendNew]
  · rw [openNodes_add]
    exact hrecorded.open_lt

/-- Closing a node records nothing. -/
theorem pop : a.pop.Recorded source stops := by
  have hsub : (a.pop.openNodes ++ [root]).Sublist (a.openNodes ++ [root]) :=
    (List.tail_sublist _).append_right _
  exact {
    sorted := hrecorded.sorted.sublist hsub
    open_lt := fun id hid => hrecorded.open_lt id (hsub.subset hid)
    lastChild_lt := hrecorded.lastChild_lt
    previous_lt := fun id previous hprevious =>
      ⟨(hrecorded.previous_lt id previous hprevious).1,
        fun hmem => (hrecorded.previous_lt id previous hprevious).2 (hsub.subset hmem)⟩
    start_le := hrecorded.start_le
    size_contentEnd := hrecorded.size_contentEnd
    contentEnd_eq := hrecorded.contentEnd_eq
    stops_eq_nil := hrecorded.stops_eq_nil
    blankBefore_iff := hrecorded.blankBefore_iff
    astray_eq := hrecorded.astray_eq }

/-- Nor does ending a text block. -/
theorem closeTextBlock : a.closeTextBlock.Recorded source stops := by
  rw [Assembly.closeTextBlock]
  split
  · exact hrecorded.pop
  · exact hrecorded

/-- An opened block is marked, and no end is recorded. -/
theorem openBlock {element : Element} (hblock : element.kind.isBlock) {range : Segment}
    (hrange : range.start ≤ source.length) :
    (a.openBlock source element range).Recorded source stops := by
  have hclosed := hrecorded.closeTextBlock
  rw [Assembly.openBlock]
  generalize a.closeTextBlock = closed at hclosed ⊢
  apply hclosed.push_add
  apply hclosed.add hclosed.top_lt_size element range _ (fun _ => hclosed.lastChild_top) hrange
  rw [blankBefore_eq_iff, and_iff_right hblock]

/-- The same for a block whose code is gathered. -/
theorem openCode {element : Element} (hblock : element.kind.isBlock) {range : Segment}
    (hrange : range.start ≤ source.length) :
    (a.openCode source element range).Recorded source stops := by
  have hcollecting : ({ a with code := some [] } : Assembly).Recorded source stops :=
    hrecorded.of_document_eq rfl rfl rfl rfl
  exact hcollecting.openBlock hblock hrange

/-- A text block is marked when it is opened for inline content. -/
theorem openInlines {start : Nat} (hstart : start ≤ source.length) :
    (a.openInlines source start).Recorded source stops := by
  rw [Assembly.openInlines]
  split
  · exact hrecorded.openBlock rfl hstart
  · exact hrecorded

/-- An inline node is added without a mark. -/
theorem add_inline {parent : NodeId} (hparent : parent < a.document.size)
    (hlast : ∀ last, (a.document.node parent).lastChild = some last →
      last ∉ a.openNodes ++ [root])
    {element : Element} (hinline : element.kind.isBlock = false) {range : Segment}
    (hrange : range.start ≤ source.length) :
    (a.add parent element range false).Recorded source stops := by
  apply hrecorded.add hparent element range false hlast hrange
  simp [hinline]

/-- An inline node is not marked. -/
theorem add_inline_top {element : Element} (hinline : element.kind.isBlock = false)
    {range : Segment} (hrange : range.start ≤ source.length) :
    (a.add a.top element range false).Recorded source stops :=
  hrecorded.add_inline hrecorded.top_lt_size (fun _ => hrecorded.lastChild_top) hinline hrange

/-- So it may be added anywhere. -/
theorem addInline {element : Element} (hinline : element.kind.isBlock = false) {range : Segment}
    (hrange : range.start ≤ source.length) :
    (a.addInline source element range).Recorded source stops :=
  (hrecorded.openInlines hrange).add_inline_top hinline hrange

/-- A text is added where inlines can stand. -/
theorem addText {start : Nat} (hstart : start ≤ source.length) (stop : Nat) :
    ((a.openInlines source start).add (a.openInlines source start).top
      (.plainText (.source ⟨start, stop⟩)) ⟨start, stop⟩ false).Recorded source stops := by
  have htext : (Element.plainText (.source ⟨start, stop⟩)).kind.isBlock = false := rfl
  have hrange : Segment.start ⟨start, stop⟩ ≤ source.length := hstart
  exact (hrecorded.openInlines hstart).add_inline_top htext hrange

/-- It may also stay open. -/
theorem openInline {element : Element} (hinline : element.kind.isBlock = false) {range : Segment}
    (hrange : range.start ≤ source.length) :
    (a.openInline source element range).Recorded source stops := by
  have hopen := hrecorded.openInlines hrange
  exact hopen.push_add (hopen.add_inline_top hinline hrange)

/-- The start of a construct records no end. -/
theorem opened {range : Segment} (hrange : range.start ≤ source.length) (tag : Tag) :
    (a.opened source range tag).Recorded source stops := by
  cases tag with
  | paragraph | heading | blockQuote | htmlBlock | list | item | other =>
      exact hrecorded.openBlock rfl hrange
  | indentedCode | fencedCode => exact hrecorded.openCode rfl hrange
  | emphasis | strong | strikethrough | image => exact hrecorded.openInline rfl hrange
  | link form => cases form <;> exact hrecorded.openInline rfl hrange

/-- Content lines do not concern what is recorded. -/
theorem setLines (lines : List Value) : (a.setLines lines).Recorded source stops := by
  apply hrecorded.modify
  rw [SameMark, Document.kind, Document.kind, Document.start, Document.start,
    Document.node_modify]
  split <;> exact ⟨rfl, rfl, rfl, rfl, rfl⟩

/-- A node that has been found gets another element of its kind. -/
theorem setElement {found : Option NodeId} {id : NodeId} {old element : Element}
    (hmap : found.map (fun id => (id, (a.document.node id).element)) = some (id, old))
    (hkind : element.kind = old.kind) :
    Recorded source { a with document := a.document.setElement id element } stops := by
  rw [← (found_of_map_element hmap).2] at hkind
  apply hrecorded.modify
  rw [SameMark, Document.kind, Document.kind, Document.start, Document.start,
    Document.node_modify]
  split
  · exact ⟨rfl, rfl, hkind, rfl, rfl⟩
  · exact ⟨rfl, rfl, rfl, rfl, rfl⟩

/-- Content is recorded for the open nodes; other things may be remembered, too. -/
theorem of_touch {stop : Nat} (hdocument : b.document = (a.touch stop).document)
    (hopenNodes : b.openNodes = (a.touch stop).openNodes)
    (hends : b.contentEnd = (a.touch stop).contentEnd)
    (hastray : b.astray = (a.touch stop).astray) :
    b.Recorded source (extend stops true (b.openNodes ++ [root]) stop) := by
  rw [hopenNodes, openNodes_touch]
  exact (hrecorded.touch stop).of_document_eq hopenNodes hends hastray hdocument

/-- The end of a text is recorded for all open nodes. -/
theorem text {range : Segment} (hrange : range.isWithin source) (content : String) :
    (a.text source range content).Recorded source
      (extend stops (a.isContent (.text content))
        ((a.text source range content).openNodes ++ [root]) range.stop) := by
  have hcontent : ∀ {b : Assembly}, a.isContent (.text content) →
      b.Recorded source (extend stops true (b.openNodes ++ [root]) range.stop) →
      b.Recorded source (extend stops (a.isContent (.text content)) (b.openNodes ++ [root])
        range.stop) := fun hcontent hrecorded => hcontent ▸ hrecorded
  rw [Assembly.text]
  split
  · next code hcode =>
      have hcollected : ({ a with code := some (code ++ content.toList) } : Assembly).Recorded
          source stops := hrecorded.of_document_eq rfl rfl rfl rfl
      apply hcontent (by simp [isContent, hcode])
      exact hcollected.of_touch rfl rfl rfl rfl
  · next hcode =>
      split
      · next hautoLink =>
          have hnone : a.isContent (.text content) = false := by
            simp [isContent, hcode, hautoLink]
          rw [hnone, extend_false]
          exact hrecorded
      · next hautoLink =>
          apply hcontent (by simp [isContent, hautoLink])
          split
          · next id segment breaks hfound =>
              let grown : Element := .text (.source (segment.withStop range.stop)) breaks
              have hgrown := hrecorded.setElement hfound (show grown.kind = .text from rfl)
              exact hgrown.of_touch rfl rfl rfl rfl
          · obtain ⟨start, hstart⟩ := exists_textStart hrange
            have hbefore : start ≤ source.length :=
              Nat.le_trans (Spelling.textStart?_le hstart) (Segment.start_le_of_isWithin hrange)
            have hadded := hrecorded.addText hbefore range.stop
            rw [hstart]
            dsimp only
            generalize a.openInlines source start = opened at hadded ⊢
            generalize opened.add opened.top _ _ _ = added at hadded ⊢
            exact hadded.of_touch rfl rfl rfl rfl

/-- So is the end of a code span. -/
theorem codeSpan {range : Segment} (hrange : range.start ≤ source.length) (content : String) :
    (a.codeSpan source range content).Recorded source
      (extend stops true ((a.codeSpan source range content).openNodes ++ [root]) range.stop) := by
  have hopen := hrecorded.openInlines hrange
  rw [Assembly.codeSpan]
  generalize a.openInlines source range.start = opened at hopen ⊢
  have hspan := hopen.add_inline_top (show Element.codeSpan.kind.isBlock = false from rfl) hrange
  have hchild := (hopen.marks_add hopen.top_lt_size .codeSpan range false opened.document.size).2.1
  have hsize : (opened.add opened.top .codeSpan range false).document.size =
      opened.document.size + 1 := by
    rw [document_add, Document.size_appendNew]
  generalize opened.add opened.top .codeSpan range false = added at hspan hchild hsize ⊢
  rw [if_neg (Nat.ne_of_gt hopen.top_lt_size), Document.node_of_size_le (Nat.le_refl _)] at hchild
  have htouch : (added.touch range.stop).Recorded source _ := hspan.of_touch rfl rfl rfl rfl
  rw [openNodes_add]
  have hdocument := document_touch (a := added) range.stop
  generalize added.touch range.stop = touched at htouch hdocument ⊢
  rw [← hdocument] at hchild hsize
  -- The code span is new, so its text is the first below it.
  apply htouch.add_inline (Nat.lt_of_lt_of_eq (Nat.lt_succ_self _) hsize.symm)
  · simp [hchild]
  · rfl
  · exact hrange

/-- So is the end of inline HTML. -/
theorem inlineHtml {range : Segment} (hrange : range.start ≤ source.length) (content : String) :
    (a.inlineHtml source range content).Recorded source
      (extend stops true ((a.inlineHtml source range content).openNodes ++ [root])
        range.stop) := by
  rw [Assembly.inlineHtml]
  exact (hrecorded.addInline rfl hrange).of_touch rfl rfl rfl rfl

/-- So is the end of a line of HTML. -/
theorem htmlLine {range : Segment} (hrange : range.start ≤ source.length) (content : String) :
    (a.htmlLine source range content).Recorded source
      (extend stops true ((a.htmlLine source range content).openNodes ++ [root]) range.stop) := by
  rw [Assembly.htmlLine]
  split
  · exact hrecorded.of_touch rfl rfl rfl rfl
  · exact hrecorded.inlineHtml hrange content

/-- A line break is no content. -/
theorem lineBreak {range : Segment} (hrange : range.start ≤ source.length) (breaks : LineBreaks) :
    (a.lineBreak source range breaks).Recorded source stops := by
  have hopen := hrecorded.openInlines hrange
  rw [Assembly.lineBreak]
  split
  · next id value hfound =>
      exact hopen.setElement hfound rfl
  · exact hopen.addInline rfl hrange

/-- The end of a thematic break is recorded for it and for the open nodes. -/
theorem rule {range : Segment} (hrange : range.start ≤ source.length) :
    (a.rule source range).Recorded source
      (extend stops true (a.document.size :: (a.closeTextBlock.openNodes ++ [root]))
        range.stop) := by
  have hopen : (a.openBlock source .thematicBreak range).Recorded source stops :=
    hrecorded.openBlock rfl hrange
  have hopenNodes : (a.openBlock source .thematicBreak range).openNodes =
      a.document.size :: a.closeTextBlock.openNodes := by
    rw [Assembly.openBlock, openNodes_push, openNodes_add, document_closeTextBlock]
  have htouch := hopen.touch range.stop
  rw [hopenNodes] at htouch
  exact htouch.pop

/-- The end of a construct is recorded if the construct is content as a whole. -/
theorem finish {range : Segment} (hrange : range.isWithin source) (tag : EndTag) :
    (a.finish source range tag).Recorded source
      (extend stops (a.endIsContent tag) (a.openNodes ++ [root]) range.stop) := by
  cases tag with
  | heading =>
      have hslice : Spelling.slice? source range = some (range.bytes source) := by
        simp only [Segment.isWithin, Bool.and_eq_true, decide_eq_true_eq] at hrange
        exact if_pos hrange
      rw [Assembly.finish, Spelling.headingLines?, hslice]
      exact (hrecorded.setLines _).of_touch rfl rfl rfl rfl
  | codeBlock =>
      simp only [Assembly.finish, endIsContent]
      generalize (cutAfter (· == '\n') (a.code.getD [])).map
        (fun line => Value.owned (String.ofList line)) = lines
      have hset : ({ a.setLines lines with code := none } : Assembly).Recorded source stops :=
        (hrecorded.setLines lines).of_document_eq rfl rfl rfl rfl
      have htop : ({ a.setLines lines with code := none } : Assembly).topElement = a.topElement :=
        topElement_setLines lines
      rw [htop]
      split
      · next hfenced =>
          rw [decide_eq_true hfenced]
          exact hset.of_touch rfl rfl rfl rfl
      · next hfenced =>
          rw [decide_eq_false hfenced, extend_false]
          exact hset
  | htmlBlock =>
      rw [endIsContent, extend_false]
      exact (hrecorded.setLines a.html).of_document_eq rfl rfl rfl rfl
  | other =>
      rw [endIsContent, extend_false]
      exact hrecorded

/-- Every event keeps what is recorded, and records its end for the nodes that it is content
inside. -/
theorem take {placed : PlacedEvent} (hrange : placed.range.isWithin source) :
    (Assembly.take source a placed).Recorded source
      (extend stops (a.isContent placed.event) (a.openDuring source placed)
        placed.range.stop) := by
  have hsettled : a.settle.Recorded source stops := hrecorded.of_document_eq rfl rfl rfl rfl
  have hstart := Segment.start_le_of_isWithin hrange
  obtain ⟨event, range⟩ := placed
  cases event with
  | text content => exact hrecorded.text hrange content
  | opened tag =>
      rw [isContent, extend_false]
      exact hsettled.opened hstart tag
  | closed tag =>
      have hclosed : (a.settle.closed source range tag).Recorded source
          (extend stops (a.settle.closeTextBlock.endIsContent tag)
            (a.settle.closeTextBlock.openNodes ++ [root]) range.stop) :=
        (hsettled.closeTextBlock.finish hrange tag).pop
      rw [closeTextBlock_settle] at hclosed
      exact hclosed
  | code content => exact hsettled.codeSpan hstart content
  | html content => exact hsettled.htmlLine hstart content
  | inlineHtml content => exact hsettled.inlineHtml hstart content
  | softBreak | hardBreak =>
      rw [isContent, extend_false]
      exact hsettled.lineBreak hstart _
  | rule =>
      have hrule := hsettled.rule hstart
      rw [closeTextBlock_settle] at hrule
      exact hrule
  | other =>
      rw [isContent, extend_false]
      exact hsettled

/-- So the ends of all content are recorded behind any events. -/
theorem foldl_take {events : List PlacedEvent}
    (hevents : ∀ placed ∈ events, placed.range.isWithin source) :
    (events.foldl (Assembly.take source) a).Recorded source
      fun id => stops id ++ contentStops source id a events := by
  induction events generalizing a stops with
  | nil => simpa [contentStops] using hrecorded
  | cons placed rest ih =>
      obtain ⟨hplaced, hrest⟩ := List.forall_mem_cons.mp hevents
      have hstops : (fun id => stops id ++ contentStops source id a (placed :: rest)) =
          fun id => extend stops (a.isContent placed.event) (a.openDuring source placed)
            placed.range.stop id ++ contentStops source id (Assembly.take source a placed) rest := by
        funext id
        rw [contentStops, extend]
        split <;> simp
      rw [List.foldl_cons, hstops]
      exact ih (hrecorded.take hplaced) hrest

omit hrecorded in
/-- Before the first event nothing is recorded. -/
theorem start (source : Bytes) : ({} : Assembly).Recorded source fun _ => [] := by
  have hnode : ∀ id, ({} : Assembly).document.node id = { element := .document } :=
    Document.node_empty
  have hzero : ∀ id, ({} : Assembly).document.start id = 0 := by
    intro id
    rw [Document.start, hnode]
    rfl
  have hsize : ({} : Assembly).document.size = 1 := rfl
  constructor
  · exact List.pairwise_singleton _ _
  · intro id hid
    rw [List.mem_singleton.mp hid]
    exact Nat.zero_lt_one
  · intro id last hlast
    rw [hnode] at hlast
    cases hlast
  · intro id previous hprevious
    rw [hnode] at hprevious
    cases hprevious
  · intro id
    rw [hzero]
    exact Nat.zero_le _
  · rfl
  · intro id hid
    rw [hsize] at hid
    rw [Nat.lt_one_iff.mp hid, hzero]
    rfl
  · exact fun _ _ => rfl
  · intro id
    rw [hnode]
    simp
  · rfl

end Recorded

end Assembly

namespace Document

/-- A block is marked as preceded by blank lines if a node stands before it that it is kept
apart from, or else if there is a blank line in the source between the furthest end of
content inside that node and its own start. No other node is marked. -/
theorem blankBefore_ofEvents_iff {source : Bytes} {events : List PlacedEvent}
    (hevents : ∀ placed ∈ events, placed.range.isWithin source) :
    ∃ doc, Document.ofEvents? source events = some doc ∧ ∀ id, (doc.node id).blankBefore ↔
      (doc.kind id).isBlock ∧ ∃ previous, (doc.node id).previous = some previous ∧
        ((doc.kind previous).KeepsApart (doc.kind id) ∨
          Spelling.BlankLineBetween source
            ((Assembly.contentStops source previous {} events).foldl max (doc.start previous))
            (doc.start id)) := by
  have hrecorded := (Assembly.Recorded.start source).foldl_take hevents
  rw [← Assembly.ofEvents] at hrecorded
  refine ⟨(Assembly.ofEvents source events).document, ?_, fun id => ?_⟩
  · rw [ofEvents?]
    exact if_neg (by simp [hrecorded.astray_eq])
  · refine (hrecorded.blankBefore_iff id).trans (and_congr_right' (exists_congr fun previous =>
      and_congr_right fun hprevious => or_congr_right ?_))
    rw [Spelling.hasBlankLine_iff (hrecorded.start_le id),
      hrecorded.contentEnd_eq previous (hrecorded.size_of_previous hprevious).2, List.nil_append]

/-- Nothing stands before the root. -/
theorem previous_root_ofEvents {source : Bytes} {events : List PlacedEvent} {doc : Document}
    (hevents : ∀ placed ∈ events, placed.range.isWithin source)
    (hdoc : ofEvents? source events = some doc) : (doc.node root).previous = none := by
  have hrecorded := (Assembly.Recorded.start source).foldl_take hevents
  obtain ⟨-, hsome⟩ := Option.ite_none_left_eq_some.mp hdoc
  cases hsome
  refine Option.eq_none_iff_forall_ne_some.mpr fun previous hprevious => ?_
  exact Nat.not_lt_zero _ (hrecorded.previous_lt root previous hprevious).1

/-- A heading, a paragraph, a quote with two paragraphs and a rule. -/
def quoteSource : Bytes :=
  Utf8.ofString "# a\nb\n> c\n>\n> d\n***\n"

/-- What a reader reports of them. -/
def quoteEvents : List PlacedEvent :=
  [⟨.opened (.heading 1), ⟨0, 4⟩⟩, ⟨.text "a", ⟨2, 3⟩⟩, ⟨.closed .heading, ⟨0, 4⟩⟩,
    ⟨.opened .paragraph, ⟨4, 6⟩⟩, ⟨.text "b", ⟨4, 5⟩⟩, ⟨.closed .other, ⟨4, 6⟩⟩,
    ⟨.opened .blockQuote, ⟨6, 16⟩⟩,
    ⟨.opened .paragraph, ⟨8, 10⟩⟩, ⟨.text "c", ⟨8, 9⟩⟩, ⟨.closed .other, ⟨8, 10⟩⟩,
    ⟨.opened .paragraph, ⟨14, 16⟩⟩, ⟨.text "d", ⟨14, 15⟩⟩, ⟨.closed .other, ⟨14, 16⟩⟩,
    ⟨.closed .other, ⟨6, 16⟩⟩, ⟨.rule, ⟨16, 20⟩⟩]

/-- The paragraph behind the heading and the second one of the quote are marked, the latter
because of the line with nothing but a marker. -/
theorem blankBefore_ofEvents_iff_quote :
    (∀ placed ∈ quoteEvents, placed.range.isWithin quoteSource) ∧
    ∃ doc, Document.ofEvents? quoteSource quoteEvents = some doc ∧
      ((List.range doc.size).filter fun id => (doc.node id).blankBefore) = [3, 8] ∧
      Assembly.contentStops quoteSource 6 {} quoteEvents = [9] ∧
      Spelling.BlankLineBetween quoteSource 9 14 := by
  have hevents : ∀ placed ∈ quoteEvents, placed.range.isWithin quoteSource := by decide +kernel
  have hmarks : (Document.ofEvents? quoteSource quoteEvents).map (fun doc =>
      ((List.range doc.size).filter fun id => (doc.node id).blankBefore,
        (doc.node 8).previous, doc.kind 6, doc.kind 8, doc.start 6, doc.start 8)) =
      some ([3, 8], some 6, .paragraph, .paragraph, 8, 14) := by decide +kernel
  have hstops : Assembly.contentStops quoteSource 6 {} quoteEvents = [9] := by decide +kernel
  obtain ⟨doc, hdoc, hiff⟩ := blankBefore_ofEvents_iff hevents
  rw [hdoc, Option.map_some, Option.some.injEq] at hmarks
  simp only [Prod.mk.injEq] at hmarks
  obtain ⟨hmarked, hprevious, hparagraph, hsecond, hstart, hstop⟩ := hmarks
  have hmark : (doc.node 8).blankBefore := by
    have hmem : 8 ∈ (List.range doc.size).filter fun id => (doc.node id).blankBefore := by
      rw [hmarked]
      decide
    exact (List.mem_filter.mp hmem).2
  refine ⟨hevents, doc, hdoc, hmarked, hstops, ?_⟩
  obtain ⟨-, previous, hfound, hapart⟩ := (hiff 8).mp hmark
  cases hprevious.symm.trans hfound
  rw [hparagraph, hsecond, hstart, hstop, hstops] at hapart
  exact hapart.resolve_left (by simp [Kind.KeepsApart])

end Document

end MarkdownFormat
