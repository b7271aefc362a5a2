/-
# The text of headings with number signs

A heading that is written with number signs in front of its text has the style's closing
signs behind it, or none. A reader takes signs at the end of the line for closing ones,
whoever wrote them. So the text is read back behind closing signs, and without them exactly
if it does not itself end like a closed heading.
-/

import MarkdownFormat.Proofs.Document.Traversal
import MarkdownFormat.Proofs.Event.HeadingLines
import MarkdownFormat.Proofs.Render.Walk
import MarkdownFormat.Proofs.Writer.Emission

namespace MarkdownFormat

namespace Heading

open Spelling

/-- What a reader finds between the number signs of a line. -/
def readAtx (line : Bytes) : Option Bytes :=
  (atxContent? line ⟨0, line.length⟩).map (Segment.bytes line)

/-- The marks are number signs. -/
theorem encode_marks (level : Nat) : Utf8.encode (marks level) = List.replicate level 0x23 :=
  Utf8.encode_replicate (show '#'.toNat < 0x80 by decide) level

/-- What stands in front of the text of a heading. -/
def opening (level : Nat) : Bytes :=
  List.replicate level 0x23 ++ [0x20]

/-- What stands behind the text of a heading. -/
def closing (config : Config) (level : Nat) : Bytes :=
  if config.headingStyle = .atxSurround then 0x20 :: List.replicate level 0x23 else []

/-- The line of a heading with a text. -/
def atxLine (config : Config) (level : Nat) (text : Bytes) : Bytes :=
  opening level ++ (text ++ closing config level)

section Reading

variable {level : Nat} {text : Bytes}

/-- The text of a heading is cut at its end. -/
theorem atxText_prefix (text : Bytes) : atxText text <+: text := by
  have hdropped : ∀ p (bytes : Bytes), dropTrailing p bytes <+: bytes := List.rdropWhile_prefix
  rw [atxText]
  refine (hdropped _ _).trans ?_
  split
  · exact hdropped _ _
  · exact List.prefix_refl text

/-- Behind the opening signs of a heading, a reader finds the text without closing signs. -/
theorem readAtx_opening (hlevel : 0 < level) (hhead : ∀ byte ∈ text.head?, isSpace byte = false) :
    readAtx (opening level ++ text) = if atxText text = [] then none else some (atxText text) := by
  have hwhole : Segment.bytes (opening level ++ text) ⟨0, (opening level ++ text).length⟩ =
      List.replicate 0 0x20 ++ (List.replicate level 0x23 ++ ([0x20] ++ text)) := by
    rw [Segment.bytes, Segment.length, List.drop_zero, Nat.sub_zero, List.take_length, opening,
      List.append_assoc]
    rfl
  rw [readAtx, atxContent?_of_gap hlevel (List.cons_ne_nil _ _)
    (List.forall_mem_singleton.mpr rfl) hhead hwhole]
  split
  · rfl
  · obtain ⟨rest, hrest⟩ := atxText_prefix text
    have hdrop : (opening level ++ text).drop (0 + (0 + level + [(0x20 : UInt8)].length)) =
        atxText text ++ rest := by
      have hlength : 0 + (0 + level + [(0x20 : UInt8)].length) = (opening level).length := by
        simp [opening]
      rw [hlength, List.drop_left, hrest]
    rw [Option.map_some, Segment.bytes_of_drop hdrop]

/-- Text that ends like a closed heading loses its end. -/
theorem atxText_ne_of_endsClosed (hclosed : EndsClosed text) : atxText text ≠ text := by
  obtain ⟨front, count, hcount, rfl, hspace⟩ := hclosed
  have hsigns : ∀ byte ∈ List.replicate count (0x23 : UInt8), byte == 0x23 := by simp
  have hfront : dropTrailing (· == 0x23) front = front := by
    rw [dropTrailing_eq_self_iff]
    intro byte hbyte
    rw [beq_eq_false_iff_ne]
    rintro rfl
    cases hspace _ hbyte
  have hunclosed : dropTrailing (· == 0x23) (front ++ List.replicate count 0x23) = front := by
    rw [dropTrailing_append_of_forall hsigns, hfront]
  intro hsame
  rw [atxText, hunclosed, if_pos ((Option.all_eq_true _ _).mpr hspace)] at hsame
  have hle : (trimBytesEnd front).length ≤ front.length :=
    (List.rdropWhile_prefix isBlankByte front).length_le
  rw [hsame, List.length_append, List.length_replicate] at hle
  omega

/-- The text of a heading is read back if the style has closing signs, and else exactly if
the text does not end like a closed heading. -/
theorem readAtx_atxLine_iff (config : Config) (hlevel : 0 < level)
    (hcontent : IsContent isSpace text) :
    readAtx (atxLine config level text) = some text ↔
      config.headingStyle = .atxSurround ∨ ¬ EndsClosed text := by
  have hhead : ∀ byte ∈ (text ++ closing config level).head?, isSpace byte = false := by
    rw [List.head?_append_of_ne_nil _ hcontent.ne_nil]
    exact hcontent.head
  rw [atxLine, readAtx_opening hlevel hhead]
  have hread : atxText (text ++ closing config level) = text →
      (if atxText (text ++ closing config level) = [] then none
        else some (atxText (text ++ closing config level))) = some text := by
    intro hkept
    rw [hkept, if_neg hcontent.ne_nil]
  by_cases hstyle : config.headingStyle = .atxSurround
  · refine iff_of_true (hread (atxText_unclosed hcontent (.inl ?_))) (.inl hstyle)
    rw [closing, if_pos hstyle]
    exact ⟨[0x20], level, List.cons_ne_nil _ _, List.forall_mem_singleton.mpr rfl, hlevel, rfl⟩
  · rw [or_iff_right hstyle]
    have hnone : closing config level = [] := if_neg hstyle
    constructor
    · intro hsame hclosed
      rw [hnone, List.append_nil] at hsame
      obtain ⟨-, hkept⟩ := Option.ite_none_left_eq_some.mp hsame
      exact atxText_ne_of_endsClosed hclosed (Option.some.inj hkept)
    · intro hopen
      exact hread (atxText_unclosed hcontent (.inr ⟨hnone, hopen⟩))

/-- Trimmed text on one line that starts without a space. -/
theorem isContent_of_trimmed (hsome : text ≠ []) (hline : newline ∉ text)
    (hhead : ∀ byte ∈ text.head?, isSpace byte = false) (htrimmed : trimmedLine text = text) :
    IsContent isSpace text :=
  ⟨hsome, hline, hhead, Utf8.not_isBlankByte_of_trimmed htrimmed⟩

/-- The line of a heading stays as it is, whatever leads stand in front of it. -/
theorem finished_atxLine (config : Config) (lead : Bytes) (hlevel : 0 < level)
    (hsome : text ≠ []) (htrimmed : trimmedLine text = text) :
    finished (lead ++ atxLine config level text) =
      lead ++ (atxLine config level text ++ [newline]) := by
  have hspace : (0x20 : UInt8).toNat < 0x80 := by decide
  have htrim : trimmedLine (lead ++ atxLine config level text) =
      lead ++ atxLine config level text := by
    rw [atxLine, opening, closing]
    split
    case isTrue =>
      let front := lead ++ (List.replicate level 0x23 ++ ([0x20] ++ (text ++ [0x20])))
      have hparted : trimmedLine (front ++ List.replicate level 0x23) =
          front ++ List.replicate level 0x23 :=
        Utf8.trimmedLine_append_replicate (show '#'.toNat < 0x80 by decide) rfl front hlevel
      simpa only [front, List.append_assoc, List.cons_append, List.nil_append] using hparted
    case isFalse =>
      have hparted := @Utf8.trimmedLine_append_cons (lead ++ List.replicate level 0x23) _ _
        hspace hsome htrimmed
      simpa only [List.append_assoc, List.append_nil, List.singleton_append] using hparted
  rw [finished, htrim, List.append_assoc]

end Reading

section Writing

variable {renderer : Renderer} {scene : Scene} {id : NodeId} {level : Nat} {state : RenderState}
  {text : Bytes}

/-- The writer where the first line of a block starts. -/
def blockStart (scene : Scene) (id : NodeId) (writer : LineWriter) : LineWriter :=
  if (scene.node id).previous.isSome && (scene.node id).blankBefore then writer.endLine else writer

/-- The separation leaves a writer where a block starts. -/
theorem run?_separation (scene : Scene) (id : NodeId) (writer : LineWriter) :
    writer.run? (separation scene id) = some (blockStart scene id writer) := by
  rw [separation, blockStart]
  split <;> rfl

/-- This writer has nothing unfinished. -/
theorem free_blockStart (hfree : state.writer.Free) (hbuffer : state.writer.buffer = []) :
    (blockStart scene id state.writer).Free ∧ (blockStart scene id state.writer).buffer = [] := by
  rw [blockStart]
  split
  · rw [LineWriter.endLine, hfree.put_newline (by simp [hbuffer])]
    exact ⟨hfree.deliver _ _, by rw [LineWriter.deliver_unlimited hfree.unlimited]⟩
  · exact ⟨hfree, hbuffer⟩

/-- Walking the children of a node adds a text to the line that is open, and does nothing else
with the writer. -/
def AddsText (renderer : Renderer) (scene : Scene) (depth : Nat) (id : NodeId) (text : Bytes)
    (before : RenderState) : Prop :=
  ∃ after, Document.walkEach (scene.document.walkTo (renderer.visit scene) depth)
      (scene.document.children id) before = .ok .proceed after ∧
    after.writer = { before.writer with buffer := before.writer.buffer ++ text }

/-- A node whose children add some text has children. -/
theorem AddsText.hasChildren {depth : Nat} {before : RenderState} (hsome : text ≠ [])
    (hadds : AddsText renderer scene depth id text before) : scene.document.hasChildren id := by
  by_contra hnone
  obtain ⟨after, hwalk, hwriter⟩ := hadds
  rw [Document.children_eq_nil (Bool.not_eq_true _ ▸ hnone)] at hwalk
  cases hwalk
  have hbuffer := congrArg LineWriter.buffer hwriter
  exact hsome (List.append_right_eq_self.mp hbuffer.symm)

/-- Behind its text, a heading with number signs has the closing ones of its style. -/
theorem feeds_script_exit (hatx : isUnderlined scene id level = false) :
    Feeds (script scene id level .exit) (closing scene.config level) := by
  rw [script, if_neg (by simp [hatx]), closing]
  split
  · rw [← encode_marks]
    exact .write _
  · exact .nil

variable (hrender : renderer.functions .heading = some (asBlock Render.heading))
  (helement : (scene.node id).element = .heading level) (hatx : isUnderlined scene id level = false)

include hrender helement

/-- Entering a heading writes the separation and its marks. -/
theorem performs_dispatch_heading_enter :
    Performs (renderer.dispatch scene id .enter) state
      (separation scene id ++ script scene id level .enter) .proceed state := by
  have hkind : scene.document.kind id = .heading := congrArg Element.kind helement
  simp only [Renderer.dispatch, hkind, hrender]
  exact performs_asBlock_enter (performs_heading helement)

/-- Leaving it writes what closes it and ends the line. -/
theorem performs_dispatch_heading_exit :
    Performs (renderer.dispatch scene id .exit) state
      (script scene id level .exit ++ [.flushLine]) .proceed state := by
  have hkind : scene.document.kind id = .heading := congrArg Element.kind helement
  simp only [Renderer.dispatch, hkind, hrender]
  exact performs_asBlock_exit (performs_heading helement)

include hatx

/-- Entering a heading with children starts its line. -/
theorem visit_heading_enter (hchildren : scene.document.hasChildren id)
    (hfree : state.writer.Free) (hbuffer : state.writer.buffer = []) :
    renderer.visit scene id .enter state = .ok .proceed { state with
      writer := { blockStart scene id state.writer with buffer := opening level } } := by
  obtain ⟨hstart, hempty⟩ := @free_blockStart scene id state hfree hbuffer
  have hline : newline ∉ opening level := by
    have hsign : newline ≠ 0x23 := by decide
    have hspace : newline ≠ 0x20 := by decide
    simp [opening, hsign, hspace]
  have hput : ((blockStart scene id state.writer).put (List.replicate level 0x23)).put [0x20] =
      { blockStart scene id state.writer with buffer := opening level } := by
    rw [← hstart.put_append, ← opening, hstart.put_of_notMem (by simp [hempty]) hline, hempty,
      List.nil_append]
  have hrun : state.writer.run? (separation scene id ++ script scene id level .enter) =
      some { blockStart scene id state.writer with buffer := opening level } := by
    rw [LineWriter.run?_append, run?_separation, script, if_neg (by simp [hatx]), if_pos hchildren,
      encode_marks]
    exact congrArg some hput
  exact Renderer.visit_of_dispatch (performs_dispatch_heading_enter hrender helement _ _ hrun)
    hstart.sound

/-- Leaving a heading ends its line. -/
theorem visit_heading_exit {start : LineWriter} (hfree : start.Free) (hempty : start.buffer = [])
    (hwriter : state.writer = { start with buffer := opening level ++ text })
    (hline : newline ∉ atxLine scene.config level text) :
    renderer.visit scene id .exit state = .ok .proceed { state with
      writer := start.deliver [atxLine scene.config level text] [] } := by
  have hsome : atxLine scene.config level text ≠ [] := by simp [atxLine, opening]
  have hopen : newline ∉ opening level ++ text := by
    intro hmem
    apply hline
    rw [atxLine, ← List.append_assoc]
    exact List.mem_append_left _ hmem
  have hbefore : state.writer = start.put (opening level ++ text) := by
    rw [hwriter, hfree.put_of_notMem (by simp [hempty]) hopen, hempty, List.nil_append]
  have hlast : ((start.put (opening level ++ text)).put (closing scene.config level)).flushLine =
      start.deliver [atxLine scene.config level text] [] := by
    rw [← hfree.put_append, List.append_assoc, ← atxLine, hfree.flushLine_put hempty,
      linesOf_of_notMem hsome hline]
  have hrun : state.writer.run? (script scene id level .exit ++ [.flushLine]) =
      some (start.deliver [atxLine scene.config level text] []) := by
    rw [LineWriter.run?_append, hbefore, feeds_script_exit hatx _ (hfree.put _)
      (hfree.newline_notMem_put _), ← hlast]
    rfl
  exact Renderer.visit_of_dispatch (performs_dispatch_heading_exit hrender helement _ _ hrun)
    (hfree.deliver _ _).sound

/-- A heading with number signs whose children come to one line of trimmed text stands on a
line of its own, behind the leads. A reader of that line finds the text between the signs if
the style has closing ones, and else exactly if the text does not end like a closed heading. -/
theorem walkTo_heading_readAtx_iff {depth : Nat} (hlevel : 0 < level) (hfree : state.writer.Free)
    (hbuffer : state.writer.buffer = []) (hsome : text ≠ []) (hline : newline ∉ text)
    (hhead : ∀ byte ∈ text.head?, isSpace byte = false) (htrimmed : trimmedLine text = text)
    (htext : AddsText renderer scene depth id text { state with
      writer := { blockStart scene id state.writer with buffer := opening level } }) :
    let start := blockStart scene id state.writer
    let line := atxLine scene.config level text
    ∃ after, scene.document.walkTo (renderer.visit scene) (depth + 1) id state =
        .ok .proceed after ∧
      after.writer.sink.received =
        start.sink.received.push (start.currentLead ++ (line ++ [newline])) ∧
      (readAtx line = some text ↔
        scene.config.headingStyle = .atxSurround ∨ ¬ EndsClosed text) := by
  intro start line
  obtain ⟨hstart, hempty⟩ := @free_blockStart scene id state hfree hbuffer
  have hnone : newline ∉ line := by
    have hsign : newline ≠ 0x23 := by decide
    have hspace : newline ≠ 0x20 := by decide
    simp only [line, atxLine, opening, closing]
    split <;> simp [hsign, hspace, hline]
  have hcontent := isContent_of_trimmed hsome hline hhead htrimmed
  have hentered := visit_heading_enter hrender helement hatx (htext.hasChildren hsome) hfree hbuffer
  obtain ⟨inner, hchildren, hinner⟩ := htext
  have hleft := visit_heading_exit hrender helement hatx hstart hempty hinner hnone
  refine ⟨_, Document.walkTo_of_visits hentered hchildren hleft, ?_,
    readAtx_atxLine_iff scene.config hlevel hcontent⟩
  have hfinished := finished_atxLine scene.config start.currentLead hlevel hsome htrimmed
  rw [← hfinished, LineWriter.deliver_unlimited hstart.unlimited]
  simp [decorate, leadBytes, LineWriter.currentLead, start]

end Writing

/-- A document of a heading with a text and nothing else. -/
def documentOf (level : Nat) (text : String) : Document :=
  ⟨#[{ element := .document, firstChild := some 1, lastChild := some 1 },
    { element := .heading level, parent := some 0, firstChild := some 2, lastChild := some 2 },
    { element := .plainText (.owned text), parent := some 1 }]⟩

/-- In front of closing signs, a sign at the end of the text belongs to the text. -/
theorem walkTo_heading_readAtx_iff_surrounded :
    let config : Config := { headingStyle := .atxSurround }
    let renderer := Renderer.standard config
    let scene : Scene := ⟨[], documentOf 2 "a #", config⟩
    let state : RenderState :=
      { writer := (LineWriter.onto .unlimited).pushLead (Utf8.ofString "> ") .all }
    let text := Utf8.ofString "a #"
    renderer.functions .heading = some (asBlock Render.heading) ∧
      (scene.node 1).element = .heading 2 ∧ isUnderlined scene 1 2 = false ∧
      state.writer.Free ∧ state.writer.buffer = [] ∧ text ≠ [] ∧ newline ∉ text ∧
      (∀ byte ∈ text.head?, isSpace byte = false) ∧ trimmedLine text = text ∧
      AddsText renderer scene 1 1 text { state with
        writer := { blockStart scene 1 state.writer with buffer := opening 2 } } ∧
      ∃ after, scene.document.walkTo (renderer.visit scene) 2 1 state = .ok .proceed after ∧
        after.writer.sink.received = #[Utf8.ofString "> ## a # ##\n"] ∧
        readAtx (Utf8.ofString "## a # ##") = some text := by
  intro config renderer scene state text
  have hfree : state.writer.Free := ⟨rfl, rfl⟩
  have hsome : text ≠ [] := by decide +kernel
  have hline : newline ∉ text := by decide +kernel
  have hhead : ∀ byte ∈ text.head?, isSpace byte = false := by
    rintro _ ⟨⟩
    rfl
  have htrimmed : trimmedLine text = text := by decide +kernel
  have hadds : AddsText renderer scene 1 1 text { state with
      writer := { blockStart scene 1 state.writer with buffer := opening 2 } } :=
    ⟨_, rfl, rfl⟩
  obtain ⟨after, hwalk, hreceived, hread⟩ := @walkTo_heading_readAtx_iff renderer scene 1 2 state
    text rfl rfl rfl 1 (Nat.succ_pos 1) hfree rfl hsome hline hhead htrimmed hadds
  have hwritten : atxLine config 2 text = Utf8.ofString "## a # ##" := by decide +kernel
  rw [hwritten] at hreceived hread
  exact ⟨rfl, rfl, rfl, hfree, rfl, hsome, hline, hhead, htrimmed, hadds, after, hwalk,
    hreceived.trans (by decide +kernel), hread.mpr (.inl rfl)⟩

/-- Without closing signs, a sign behind a space at the end of the text is taken for one. -/
theorem not_forall_render_heading_readAtx : ¬ ∀ (level : Nat) (text : String) (line : Bytes),
    1 ≤ level → level ≤ 6 → text ≠ "" → '\n' ∉ text.toList →
    (∀ c ∈ text.toList.head?, isBlank c = false) → (∀ c ∈ text.toList.getLast?, isBlank c = false) →
    ((Renderer.standard {}).render .unlimited [] (documentOf level text)).2.writer.sink.content =
      line ++ [newline] →
    readAtx line = some (Utf8.ofString text) := by
  intro hall
  have hread := hall 1 "foo #" (Utf8.ofString "# foo #") (by decide) (by decide) (by decide)
    (by decide) (by rintro _ ⟨⟩; rfl) (by rintro _ ⟨⟩; rfl) (by decide +kernel)
  exact absurd hread (by decide +kernel)

end Heading

end MarkdownFormat
