/-
# Nodes without a render function

A node of a kind without a render function shows only its children. An inline of such a
kind can be left out, with its children in its place: the other nodes do not notice, and
all that is missing from the rendering is the warning about the node.
-/

import MarkdownFormat.Proofs.Render.Alike

namespace MarkdownFormat

namespace Document

variable {doc changed later : Document} {parent id : NodeId}

/-- Puts the children of a node, which is a child of `parent`, in its place. -/
def unwrap (doc : Document) (parent id : NodeId) : Document :=
  ((doc.children id).foldl (fun doc child => doc.insertBefore parent id child) doc).detach id

/-- The first child of a node is moved right before the node. -/
theorem WellFormed.sameOutside_moveUp (hwellFormed : doc.WellFormed) {child : NodeId}
    {front back rest : List NodeId} (hrow : doc.children parent = front ++ id :: back)
    (hbelow : doc.children id = child :: rest) :
    let moved := doc.insertBefore parent id child
    doc.SameOutside moved {parent, id} ∧ moved.children id = rest ∧
      moved.children parent = front ++ child :: id :: back := by
  intro moved
  have hparent : doc.IsParent parent id := hwellFormed.isParent_of_split hrow
  have hchild : doc.IsParent id child := (hwellFormed.mem_children id child).mp (by simp [hbelow])
  have hne : id ≠ parent := hwellFormed.ne_of_isParent hparent
  have hbefore : id ≠ child := (hwellFormed.ne_of_isParent hchild).symm
  have habove : ¬ doc.IsAbove child parent := fun habove =>
    hwellFormed.acyclic parent
      (Relation.TransGen.head' hparent (Relation.ReflTransGen.head hchild habove))
  have hsplit : (doc.children parent).erase child = front ++ id :: back := by
    rw [List.erase_of_not_mem (hwellFormed.notMem_children hchild hne.symm), hrow]
  have hlt := (hwellFormed.rows.mem_of_parent hparent).1
  have hchildLt := lt_size_of_parent hchild
  obtain ⟨hinto, hold, hsame⟩ := hwellFormed.sameOutside_of_move
    (hwellFormed.rows.insertBefore hlt hchildLt hsplit)
    (hwellFormed.isForest.insertBefore hchildLt hparent hbefore habove)
    (size_insertBefore parent id child)
    (hwellFormed.rows.label_insertBefore hlt hchildLt hsplit)
  have htouched : insert parent {old | doc.IsParent old child} = ({parent, id} : Set NodeId) := by
    have hup : (doc.node child).parent = some id := hchild
    ext old
    simp [IsParent, hup, eq_comm]
  refine ⟨htouched ▸ hsame, ?_, hinto⟩
  rw [hold id hne, hbelow, List.erase_cons_head]

/-- All children of a node are moved right before the node, one after the other. -/
theorem WellFormed.sameOutside_foldl (hwellFormed : doc.WellFormed)
    {front back rest : List NodeId} (hrow : doc.children parent = front ++ id :: back)
    (hbelow : doc.children id = rest) :
    let emptied := rest.foldl (fun doc child => doc.insertBefore parent id child) doc
    doc.SameOutside emptied {parent, id} ∧ emptied.children id = [] ∧
      emptied.children parent = front ++ (rest ++ id :: back) := by
  induction rest generalizing doc front with
  | nil => exact ⟨SameOutside.refl hwellFormed _, hbelow, hrow⟩
  | cons child rest ih =>
      obtain ⟨hmoved, hrest, hfront⟩ := hwellFormed.sameOutside_moveUp hrow hbelow
      rw [← List.singleton_append, ← List.append_assoc] at hfront
      obtain ⟨hemptied, hnil, hall⟩ := ih hmoved.wellFormed hfront hrest
      exact ⟨hmoved.trans hemptied, hnil, by simpa using hall⟩

/-- The children of the node stand in its place, and it has none left. -/
theorem WellFormed.sameOutside_unwrap (hwellFormed : doc.WellFormed) {front back : List NodeId}
    (hrow : doc.children parent = front ++ id :: back) :
    doc.SameOutside (doc.unwrap parent id) {parent, id} ∧ (doc.unwrap parent id).children id = [] ∧
      (doc.unwrap parent id).children parent = front ++ (doc.children id ++ back) := by
  obtain ⟨hemptied, hnil, hall⟩ := hwellFormed.sameOutside_foldl hrow rfl
  rw [unwrap]
  generalize (doc.children id).foldl (fun doc child => doc.insertBefore parent id child) doc =
    emptied at hemptied hnil hall
  rw [← List.append_assoc] at hall
  have hparent : emptied.IsParent parent id := hemptied.wellFormed.isParent_of_split hall
  obtain ⟨hold, hdetached⟩ := hemptied.wellFormed.sameOutside_detach (lt_size_of_parent hparent)
  have htouched : {old | emptied.IsParent old id} ⊆ ({parent, id} : Set NodeId) := by
    intro old hold
    exact .inl (Option.some.inj (hold.symm.trans hparent))
  refine ⟨hemptied.trans (hdetached.mono htouched), by rw [hold, hnil]; rfl, ?_⟩
  rw [hold, hemptied.wellFormed.erase_of_split hall, List.append_assoc]

/-- In place of the node stand its children. -/
theorem WellFormed.isReplaced_unwrap (hwellFormed : doc.WellFormed)
    (hparent : doc.IsParent parent id) (hchildren : doc.children id ≠ []) :
    doc.IsReplaced (doc.unwrap parent id) id (doc.children id) := by
  obtain ⟨front, back, hrow⟩ :=
    List.append_of_mem ((hwellFormed.mem_children parent id).mpr hparent)
  obtain ⟨hsame, hnil, hplace⟩ := hwellFormed.sameOutside_unwrap hrow
  refine .of_children hwellFormed hsame.wellFormed (Nat.le_of_eq hsame.size_eq.symm) hrow hplace
    (fun k hid hk => hsame.children_eq k (by simp [hid, hk])) ?below hchildren ?others
    (fun k _ _ => hsame.label_eq k)
  case below =>
    rw [hnil]
    exact List.nil_subset _
  case others =>
    intro k hk _
    rw [(hwellFormed.mem_children id k).mp hk]
    nofun

/-- The visits in the place of a visit: the node is not visited any more. -/
def visitsWithout (id : NodeId) (call : NodeId × Phase) : List (NodeId × Phase) :=
  if call.1 = id then [] else [call]

/-- The visits to the node are left out. -/
theorem visitsWithout_self (id : NodeId) (phase : Phase) : visitsWithout id (id, phase) = [] :=
  if_pos rfl

/-- The visits to others stay. -/
theorem visitsWithout_of_ne {k : NodeId} (hk : k ≠ id) (phase : Phase) :
    visitsWithout id (k, phase) = [(k, phase)] :=
  if_neg hk

/-- So a walk makes the same visits but for those to the node. -/
theorem WellFormed.calls_unwrap (hwellFormed : doc.WellFormed) (hparent : doc.IsParent parent id)
    (hchildren : doc.children id ≠ []) {k : NodeId} (hk : k ≠ id) :
    (doc.unwrap parent id).calls k = (doc.calls k).flatMap (visitsWithout id) := by
  refine (hwellFormed.isReplaced_unwrap hparent hchildren).calls_eq
    (fun other => visitsWithout_of_ne) (fun hbelow => ?_) hk
  have hsize : 0 < doc.size := Nat.zero_lt_of_lt (lt_size_of_parent hparent)
  rw [List.flatMap_congr hbelow, hwellFormed.calls_eq hsize, List.flatMap_cons,
    List.flatMap_append, List.flatMap_assoc, List.flatMap_singleton, visitsWithout_self,
    visitsWithout_self, List.append_nil, List.nil_append]

/-- A node is entered once, if at all. -/
theorem WellFormed.exists_calls_split (hwellFormed : doc.WellFormed) (hsize : 0 < doc.size)
    {upper : NodeId} (habove : doc.IsAbove upper id) :
    ∃ front back, doc.calls upper = front ++ (id, .enter) :: back ∧
      (id, .enter) ∉ front ∧ (id, .enter) ∉ back := by
  have hentered : (id, Phase.enter) ∈ doc.calls upper :=
    (hwellFormed.mem_calls_iff hsize).mpr habove
  obtain ⟨front, back, hsplit⟩ := List.append_of_mem hentered
  have hnodup := hwellFormed.nodup_calls hsize upper
  rw [hsplit] at hnodup
  have hmem := (List.nodup_cons.mp (List.nodup_middle.mp hnodup)).1
  rw [List.mem_append, not_or] at hmem
  exact ⟨front, back, hsplit, hmem⟩

end Document

/-- Nothing in front changes nothing. -/
theorem LineWriter.after_empty (writer : LineWriter) : writer.after #[] = writer := by
  have hlead : ∀ lead : Lead, lead.below 0 = lead := by
    rintro ⟨bytes, first, last⟩
    simp [Lead.below]
  have hleads : writer.leads.map (·.below 0) = writer.leads := by
    rw [funext hlead, List.map_id']
  obtain ⟨⟨limit, fault, received⟩, buffer, leads, line, health⟩ := writer
  simp only at hleads
  simp [LineWriter.after, Sink.after, hleads]

/-- Two states differ in their earlier warnings only. -/
def RenderState.IsBehind (first second : Array Warning) (state other : RenderState) : Prop :=
  ∃ base : RenderState, state = base.after #[] first ∧ other = base.after #[] second

namespace RenderState.IsBehind

variable {first second : Array Warning} {state other : RenderState}

/-- Without warnings before, each state is behind itself. -/
theorem refl (state : RenderState) : IsBehind #[] #[] state state := by
  have hstate : state = state.after #[] #[] := by
    rw [RenderState.after, LineWriter.after_empty, Array.empty_append]
  exact ⟨state, hstate, hstate⟩

/-- Behind the same warnings there is only the same state. -/
theorem eq (hbehind : IsBehind first first state other) : other = state := by
  obtain ⟨base, rfl, rfl⟩ := hbehind
  rfl

/-- A warning more in one of two equal states. -/
theorem push (state : RenderState) (warning : Warning) :
    IsBehind (state.warnings.push warning) state.warnings
      { state with warnings := state.warnings.push warning } state := by
  refine ⟨{ state with warnings := #[] }, ?_, ?_⟩ <;>
    simp [RenderState.after, LineWriter.after_empty]

/-- The writer does not know of warnings. -/
theorem writer_eq (hbehind : IsBehind first second state other) : other.writer = state.writer := by
  obtain ⟨base, rfl, rfl⟩ := hbehind
  rfl

/-- The later warnings are the same. -/
theorem exists_warnings_eq (hbehind : IsBehind first second state other) :
    ∃ later, state.warnings = first ++ later ∧ other.warnings = second ++ later := by
  obtain ⟨base, rfl, rfl⟩ := hbehind
  exact ⟨base.warnings, rfl, rfl⟩

end RenderState.IsBehind

namespace Renderer

open Document

variable {config : Config} {strikethrough : Bool} {scene other : Scene} {doc : Document}
  {parent id : NodeId} {before after state last : RenderState} {first second : Array Warning}

/-- Where two scenes are alike, a visit does the same behind any warnings. -/
theorem isBehind_visit (hbehind : before.IsBehind first second state)
    (halike : scene.Alike other id) {phase : Phase}
    (hvisit : (forMarkdown config strikethrough).visit scene id phase before = .ok .proceed after)
    (hother : (forMarkdown config strikethrough).visit other id phase state = .ok .proceed last) :
    after.IsBehind first second last := by
  obtain ⟨base, rfl, rfl⟩ := hbehind
  rw [visit_alike halike] at hother
  obtain ⟨inside, hinside, rfl⟩ :=
    (commutes_visit #[] first config strikethrough scene id phase).exists_of_ok hvisit
  obtain ⟨inner, hinner, rfl⟩ :=
    (commutes_visit #[] second config strikethrough scene id phase).exists_of_ok hother
  rw [hinside] at hinner
  cases hinner
  exact ⟨inside, rfl, rfl⟩

section Unregistered

variable {kind : Kind} (hkind : scene.document.kind id = kind)
  (hunregistered : (forMarkdown config strikethrough).hasRenderer kind = false)
include hkind hunregistered

/-- Entering a node of a kind without a function gives a warning, and no more. -/
theorem visit_unregistered_enter
    (hvisit : (forMarkdown config strikethrough).visit scene id .enter before =
      .ok .proceed after) :
    after = { before with warnings := before.warnings.push (.noRenderer kind) } := by
  have hdispatch := (visit_eq_ok hvisit).1
  rw [hasRenderer, Option.isSome_eq_false_iff, Option.isNone_iff_eq_none] at hunregistered
  simp only [dispatch, hkind, hunregistered] at hdispatch
  cases hdispatch
  rfl

/-- Leaving it does nothing. -/
theorem visit_unregistered_exit
    (hvisit : (forMarkdown config strikethrough).visit scene id .exit before =
      .ok .proceed after) : after = before := by
  have hdispatch := (visit_eq_ok hvisit).1
  rw [hasRenderer, Option.isSome_eq_false_iff, Option.isNone_iff_eq_none] at hunregistered
  simp only [dispatch, hkind, hunregistered] at hdispatch
  cases hdispatch
  rfl

end Unregistered

section Unwrap

variable {name : String} {source : Bytes} (hwellFormed : doc.WellFormed)
  (hparent : doc.IsParent parent id) (hkind : doc.kind id = .custom name false)
  (hchildren : doc.children id ≠ [])
  (hinlines : ∀ child ∈ doc.children id, (doc.kind child).isBlock = false)
  (hspan : doc.kind parent ≠ .codeSpan)
include hwellFormed hparent hkind hchildren hinlines hspan

/-- Nothing that a visit to another node looks at has changed. -/
theorem alike_unwrap (config : Config) {k : NodeId} (hid : k ≠ id) (hk : k < doc.size) :
    Scene.Alike ⟨source, doc, config⟩ ⟨source, doc.unwrap parent id, config⟩ k := by
  have hreplaced := hwellFormed.isReplaced_unwrap hparent hchildren
  refine hreplaced.alike source config hid hk (fun hcode hmem => ?content)
    (fun hblock above habove => ?row) (by rw [hkind]; rfl) (fun child hchild => ?inlines)
  case content =>
    have hup := (hwellFormed.mem_children k id).mp hmem
    rw [hparent, Option.some.injEq] at hup
    exact absurd (hup ▸ hcode) hspan
  case row =>
    apply hreplaced.children_eq above
    rintro rfl
    rw [hinlines k ((hwellFormed.mem_children above k).mpr habove)] at hblock
    cases hblock
  case inlines =>
    have hbelow := (hwellFormed.mem_children id child).mp hchild
    rw [hreplaced.kind_eq (hwellFormed.ne_of_isParent hbelow) (lt_size_of_parent hbelow)]
    exact hinlines child hchild

/-- Where the node is not entered, what is done without it is the same behind any warnings. -/
theorem isBehind_leads
    (hunregistered : (forMarkdown config strikethrough).hasRenderer (.custom name false) = false)
    {calls : List (NodeId × Phase)} (hcalls : ∀ k phase, (k, phase) ∈ calls → k < doc.size)
    (hmem : (id, .enter) ∉ calls) (hbehind : before.IsBehind first second state)
    (hleads : ((forMarkdown config strikethrough).visit ⟨source, doc, config⟩).Leads before calls
      after)
    (hother : ((forMarkdown config strikethrough).visit
      ⟨source, doc.unwrap parent id, config⟩).Leads state (calls.flatMap (visitsWithout id)) last) :
    after.IsBehind first second last := by
  refine hleads.simulates (RenderState.IsBehind first second) (fun k phase hcall => ?_) hother
    hbehind
  intro before inside state middle hbehind hvisit hwrite
  by_cases hid : k = id
  · subst hid
    rw [visitsWithout_self, Visitor.leads_nil_iff] at hwrite
    cases phase with
    | enter => exact absurd hcall hmem
    | exit => rwa [hwrite, visit_unregistered_exit hkind hunregistered hvisit]
  · rw [visitsWithout_of_ne hid, Visitor.leads_singleton_iff] at hwrite
    exact isBehind_visit hbehind (alike_unwrap hwellFormed hparent hkind hchildren hinlines hspan
      config hid (hcalls k phase hcall)) hvisit hwrite

/-- What is done at all visits without the node is the same behind the warnings, with the one
about the node less if the node is visited. -/
theorem exists_isBehind_leads (hroot : id ≠ Document.root)
    (hunregistered : (forMarkdown config strikethrough).hasRenderer (.custom name false) = false)
    (hleads : ((forMarkdown config strikethrough).visit ⟨source, doc, config⟩).Leads before
      (doc.calls Document.root) after)
    (hother : ((forMarkdown config strikethrough).visit
      ⟨source, doc.unwrap parent id, config⟩).Leads before
        ((doc.unwrap parent id).calls Document.root) last) :
    (doc.IsAbove Document.root id → ∃ warned,
      after.IsBehind (warned.push (.noRenderer (.custom name false))) warned last) ∧
    (¬ doc.IsAbove Document.root id → last = after) := by
  have hsize : 0 < doc.size := Nat.zero_lt_of_lt (lt_size_of_parent hparent)
  have hlt : ∀ k phase, (k, phase) ∈ doc.calls Document.root → k < doc.size :=
    fun k phase hmem => hwellFormed.lt_size_of_mem_calls hsize hsize hmem
  rw [hwellFormed.calls_unwrap hparent hchildren hroot.symm] at hother
  constructor
  · intro habove
    obtain ⟨front, back, hsplit, hfront, hback⟩ := hwellFormed.exists_calls_split hsize habove
    rw [hsplit] at hleads hother hlt
    rw [List.flatMap_append, List.flatMap_cons, visitsWithout_self, List.nil_append] at hother
    obtain ⟨inside, hfirst, hleads⟩ := Visitor.leads_append_iff.mp hleads
    obtain ⟨middle, hotherFirst, hother⟩ := Visitor.leads_append_iff.mp hother
    obtain ⟨entered, hvisit, hrest⟩ := Visitor.leads_cons_iff.mp hleads
    -- Up to the node nothing is different.
    have hsame : inside.IsBehind #[] #[] middle :=
      isBehind_leads hwellFormed hparent hkind hchildren hinlines hspan hunregistered
        (fun k phase hmem => hlt k phase (List.mem_append_left _ hmem)) hfront (.refl before) hfirst
        hotherFirst
    rw [hsame.eq] at hother
    have hpushed := RenderState.IsBehind.push inside (.noRenderer (.custom name false))
    rw [← visit_unregistered_enter hkind hunregistered hvisit] at hpushed
    exact ⟨inside.warnings, isBehind_leads hwellFormed hparent hkind hchildren hinlines hspan
      hunregistered (fun k phase hmem => hlt k phase (List.mem_append_right _
        (List.mem_cons_of_mem _ hmem))) hback hpushed hrest hother⟩
  · intro habove
    have hmem : (id, Phase.enter) ∉ doc.calls Document.root := fun hmem =>
      habove ((hwellFormed.mem_calls_iff hsize).mp hmem)
    exact (isBehind_leads hwellFormed hparent hkind hchildren hinlines hspan hunregistered hlt hmem
      (.refl before) hleads hother).eq

variable (config strikethrough source) in
/-- An inline of a kind without a render function can give way to its children, if these are
inlines and do not come into a code span. The same bytes are written, and what is missing among
the warnings is the one about the node. The node is any child but the root, where the rendering
starts. -/
theorem render_unwrap (hroot : id ≠ Document.root)
    (hunregistered : (forMarkdown config strikethrough).hasRenderer (.custom name false) = false) :
    let renderer := forMarkdown config strikethrough
    let outcome := renderer.render .unlimited source doc
    let without := renderer.render .unlimited source (doc.unwrap parent id)
    outcome.1 = none ∧ without.1 = none ∧ without.2.writer.sink = outcome.2.writer.sink ∧
      (doc.IsAbove Document.root id →
        ∃ front back, outcome.2.warnings = front.push (.noRenderer (.custom name false)) ++ back ∧
          without.2.warnings = front ++ back) ∧
      (¬ doc.IsAbove Document.root id → without = outcome) := by
  intro renderer outcome without
  obtain ⟨after, hleads, hrender⟩ := exists_leads config strikethrough source doc
  obtain ⟨last, hother, hwithout⟩ := exists_leads config strikethrough source (doc.unwrap parent id)
  obtain ⟨hvisited, hpassed⟩ := exists_isBehind_leads hwellFormed hparent hkind hchildren hinlines
    hspan hroot hunregistered hleads hother
  have houtcome : outcome = (none, { after with writer := after.writer.flushLine }) := hrender
  have hleft : without = (none, { last with writer := last.writer.flushLine }) := hwithout
  rw [houtcome, hleft]
  by_cases habove : doc.IsAbove Document.root id
  · obtain ⟨warned, hbehind⟩ := hvisited habove
    refine ⟨rfl, rfl, by rw [hbehind.writer_eq], fun _ => ?_, fun hnot => absurd habove hnot⟩
    obtain ⟨later, hmore, hless⟩ := hbehind.exists_warnings_eq
    exact ⟨warned, later, hmore, hless⟩
  · obtain rfl := hpassed habove
    exact ⟨rfl, rfl, rfl, fun hnot => absurd hnot habove, fun _ => rfl⟩

end Unwrap

/-- The mark around the code span gives way to it. -/
theorem render_unwrap_markedSpan :
    Document.markedSpan.WellFormed ∧ Document.markedSpan.IsParent 1 3 ∧
      Document.markedSpan.kind 3 = .custom "Mark" false ∧
      (forMarkdown {} true).hasRenderer (.custom "Mark" false) = false ∧
      Document.markedSpan.IsAbove Document.root 3 ∧
      ∃ front back,
        ((forMarkdown {} true).render .unlimited [0x78, 0x60] Document.markedSpan).2.warnings =
          front.push (.noRenderer (.custom "Mark" false)) ++ back ∧
        ((forMarkdown {} true).render .unlimited [0x78, 0x60]
          (Document.markedSpan.unwrap 1 3)).2.warnings = front ++ back := by
  have hparent : Document.markedSpan.IsParent 1 3 := rfl
  have hkind : Document.markedSpan.kind 3 = .custom "Mark" false := rfl
  have hinlines : ∀ child ∈ Document.markedSpan.children 3,
      (Document.markedSpan.kind child).isBlock = false := by decide
  have hunregistered : (forMarkdown {} true).hasRenderer (.custom "Mark" false) = false := by
    rw [hasRenderer, functions_forMarkdown]
    decide
  have habove : Document.markedSpan.IsAbove Document.root 3 :=
    .tail (.single (rfl : Document.markedSpan.IsParent 0 1)) hparent
  obtain ⟨-, -, -, hwarnings, -⟩ := render_unwrap {} true [0x78, 0x60]
    Document.wellFormed_markedSpan hparent hkind (by decide) hinlines (by decide) (by decide)
      hunregistered
  exact ⟨Document.wellFormed_markedSpan, hparent, hkind, hunregistered, habove, hwarnings habove⟩

end Renderer

end MarkdownFormat
