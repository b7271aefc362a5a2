/-
# The content of code spans read back

A reader strips a space from both ends of what stands between the fences of a code span,
unless that is nothing but spaces. Padding makes up for it: padded content is stripped of
its padding, and content that starts and ends with a space is padded. There is one
exception. Blanks of any kind count as spaces when it is decided whether there is anything
but spaces, so content of several kinds of blanks goes without padding, and loses the
spaces at its ends.
-/

import MarkdownFormat.Proofs.Render.CodeSpan

namespace MarkdownFormat

namespace CodeSpan

/-- What a reader makes of the bytes between two fences. -/
def stripped (bytes : Bytes) : Bytes :=
  if bytes.head? = some 0x20 ∧ bytes.getLast? = some 0x20 ∧ ∃ byte ∈ bytes, byte ≠ 0x20 then
    bytes.tail.dropLast
  else bytes

/-- Content that is read as if it were padded, but is taken for nothing but spaces: blanks
between two spaces, some of them of other kinds. -/
structure LooksPadded (content : Bytes) : Prop where
  head_eq : content.head? = some 0x20
  last_eq : content.getLast? = some 0x20
  notSpaces : ∃ byte ∈ content, byte ≠ 0x20
  blank : ∀ c ∈ Utf8.decodeLossy content, isBlank c

/-- What stands between the fences of a span. -/
def inside (content : Bytes) : Bytes :=
  let style := style (Utf8.decodeLossy content)
  pad style ++ content ++ pad style

/-- A reader takes the pads away. -/
theorem stripped_padded {content : Bytes} (hcontent : ∃ byte ∈ content, byte ≠ 0x20) :
    stripped ([0x20] ++ content ++ [0x20]) = content := by
  obtain ⟨byte, hmem, hne⟩ := hcontent
  have hinside : ∃ byte ∈ [0x20] ++ content ++ [0x20], byte ≠ 0x20 :=
    ⟨byte, List.mem_append_left _ (List.mem_append_right _ hmem), hne⟩
  rw [stripped, if_pos ⟨rfl, List.getLast?_concat .., hinside⟩]
  simp

/-- Stripping takes something away. -/
theorem stripped_eq_self_iff {content : Bytes} :
    stripped content = content ↔
      ¬ (content.head? = some 0x20 ∧ content.getLast? = some 0x20 ∧
        ∃ byte ∈ content, byte ≠ 0x20) := by
  rw [stripped]
  split
  · next hends =>
      refine iff_of_false (fun heq => ?_) (not_not_intro hends)
      have hpos := List.length_pos_of_mem (List.mem_of_head? hends.1)
      have hlength := congrArg List.length heq
      rw [List.length_dropLast, List.length_tail] at hlength
      omega
  · next hends => exact iff_of_true rfl hends

/-- Content is padded if blanks are on both sides of more than blanks, or if a backtick is on one
side. -/
theorem needsPadding_iff {text : List Char} {first last : Char} (hfirst : text.head? = some first)
    (hlast : text.getLast? = some last) :
    needsPadding text ↔
      (isBlank first ∧ isBlank last ∧ ∃ c ∈ text, isBlank c = false) ∨
        first = backtick ∨ last = backtick := by
  simp [needsPadding, hfirst, hlast, and_assoc, or_assoc]

section Content

variable {content : Bytes}

/-- The spaces of a content are those of its bytes. -/
theorem sameSpaces (content : Bytes) :
    SameMarks (0x20 : UInt8) ' ' content (Utf8.decodeLossy content) :=
  Utf8.sameMarks_decodeLossy (by decide) (by decide) content

/-- Content has a first character and a last one. -/
theorem exists_ends (hcontent : content ≠ []) :
    ∃ first last, (Utf8.decodeLossy content).head? = some first ∧
      (Utf8.decodeLossy content).getLast? = some last := by
  have htext : Utf8.decodeLossy content ≠ [] := mt (sameSpaces content).eq_nil_iff.mpr hcontent
  exact ⟨_, _, List.head?_eq_some_head htext, List.getLast?_eq_some_getLast htext⟩

/-- Padding is never put around spaces alone. -/
theorem exists_ne_space_of_needsPadding (hpadding : needsPadding (Utf8.decodeLossy content)) :
    ∃ byte ∈ content, byte ≠ 0x20 := by
  by_contra hnone
  push Not at hnone
  have hspaces := (sameSpaces content).forall_eq_iff.mp hnone
  have hcontent : content ≠ [] := by
    rintro rfl
    cases hpadding
  obtain ⟨first, last, hfirst, hlast⟩ := exists_ends hcontent
  rw [needsPadding_iff hfirst hlast, hspaces first (List.mem_of_head? hfirst),
    hspaces last (List.mem_of_getLast? hlast)] at hpadding
  rcases hpadding with ⟨-, -, c, hc, hblank⟩ | hmark | hmark
  · rw [hspaces c hc] at hblank
    cases hblank
  · cases hmark
  · cases hmark

/-- What starts and ends with a space goes without padding only if it is blank. -/
theorem needsPadding_of_spaces (hhead : content.head? = some 0x20)
    (hlast : content.getLast? = some 0x20) :
    needsPadding (Utf8.decodeLossy content) ↔
      ∃ c ∈ Utf8.decodeLossy content, isBlank c = false := by
  have hfirst := (sameSpaces content).head?_iff.mp hhead
  have hlast := (sameSpaces content).getLast?_iff.mp hlast
  have hblank : isBlank ' ' := by decide
  have hmark : ' ' ≠ backtick := by decide
  rw [needsPadding_iff hfirst hlast]
  simp [hblank, hmark]

/-- Content is read back from between its fences unless it looks padded. -/
theorem stripped_inside_iff (content : Bytes) :
    stripped (inside content) = content ↔ ¬ LooksPadded content := by
  cases hpadding : needsPadding (Utf8.decodeLossy content) with
  | true =>
      have hinside : inside content = [0x20] ++ content ++ [0x20] := by
        simp [inside, style, pad, hpadding]
      have hcontent := exists_ne_space_of_needsPadding hpadding
      rw [hinside]
      refine iff_of_true (stripped_padded hcontent) fun hlooks => ?_
      obtain ⟨c, hc, hblank⟩ := (needsPadding_of_spaces hlooks.head_eq hlooks.last_eq).mp hpadding
      rw [hlooks.blank c hc] at hblank
      cases hblank
  | false =>
      have hinside : inside content = content := by simp [inside, style, pad, hpadding]
      rw [hinside, stripped_eq_self_iff, not_iff_not]
      constructor
      · rintro ⟨hhead, hlast, hcontent⟩
        refine ⟨hhead, hlast, hcontent, fun c hc => ?_⟩
        by_contra hblank
        rw [Bool.not_eq_true] at hblank
        rw [(needsPadding_of_spaces hhead hlast).mpr ⟨c, hc, hblank⟩] at hpadding
        cases hpadding
      · exact fun hlooks => ⟨hlooks.head_eq, hlooks.last_eq, hlooks.notSpaces⟩

end Content

/-- Content without newlines stands as it is between its fences. -/
theorem spelled_of_notMem {content : Bytes} (hline : newline ∉ content) :
    let style := style (Utf8.decodeLossy content)
    spelled style content = fence style ++ (inside content ++ fence style) := by
  have hjoined : Render.joinedLines content = content := by
    rw [Render.joinedLines]
    refine (List.map_congr_left fun byte hbyte => if_neg ?_).trans (List.map_id' content)
    rintro rfl
    exact hline hbyte
  simp only [spelled, inside, hjoined]

/-- Walking a code span with texts as children adds it to the line. -/
theorem walkTo_spelled (config : Config) {scene : Scene} {id : NodeId} {label : Label}
    {children : List Tree} (hholds : scene.document.Holds (.node label children) id)
    (hspan : label.element = .codeSpan) (htexts : ∀ child ∈ children, IsPlainText child)
    {state : RenderState} (houtside : state.codeSpan = none) (hfree : state.writer.Free)
    (hopen : newline ∉ state.writer.buffer) (depth : Nat) :
    let content := Printer.spanContent scene.source children
    scene.document.walkTo ((Renderer.standard config).visit scene) (depth + 2) id state =
      .ok .proceed { state with writer := { state.writer with
        buffer := state.writer.buffer ++
          spelled (style (Utf8.decodeLossy content)) content } } := by
  intro content
  obtain ⟨hchildren, hheight⟩ := areMarkdown_texts htexts
  have hmarkdown : (Tree.node label children).isMarkdown := by
    simp only [Tree.isMarkdown, hspan]
    exact hchildren
  have hinline : (Tree.node label children).kind.isBlock = false := by
    simp only [Tree.kind, Tree.label, hspan]
    rfl
  obtain ⟨script, hchecked, hfeeds⟩ := (@walk_inline scene config).1 _ id (depth + 2) state hholds
    hmarkdown hinline (Nat.le_trans (Nat.succ_le_succ hheight) (Nat.le_add_left 2 depth))
  rw [houtside, inline_codeSpan hspan htexts] at hchecked hfeeds
  have hwalk := (hchecked state.writer _ hfree.sound (hfeeds _ hfree hopen)).1 (hfree.put _).sound
  rw [hwalk, hfree.put_of_notMem hopen (newline_notMem_spelled _ _), houtside]

/-- A code span without newlines stands between its fences in such a way that a reader gets
its content back, unless the content looks padded. -/
theorem walkTo_codeSpan_stripped (config : Config) {scene : Scene} {id : NodeId} {label : Label}
    {children : List Tree} (hholds : scene.document.Holds (.node label children) id)
    (hspan : label.element = .codeSpan) (htexts : ∀ child ∈ children, IsPlainText child)
    (hcontent : Printer.spanContent scene.source children ≠ [])
    (hline : newline ∉ Printer.spanContent scene.source children) {state : RenderState}
    (houtside : state.codeSpan = none) (hfree : state.writer.Free)
    (hopen : newline ∉ state.writer.buffer) (depth : Nat) :
    let content := Printer.spanContent scene.source children
    let fence := fence (style (Utf8.decodeLossy content))
    let bytes := fence ++ (inside content ++ fence)
    scene.document.walkTo ((Renderer.standard config).visit scene) (depth + 2) id state =
        .ok .proceed { state with
          writer := { state.writer with buffer := state.writer.buffer ++ bytes } } ∧
      IsFenced mark bytes fence.length ∧
      (stripped (inside content) = content ↔ ¬ LooksPadded content) := by
  intro content fence bytes
  have hspelled : spelled (style (Utf8.decodeLossy content)) content = bytes :=
    spelled_of_notMem hline
  have hlength : fence.length = (style (Utf8.decodeLossy content)).fence := List.length_replicate
  rw [hlength, ← hspelled]
  exact ⟨walkTo_spelled config hholds hspan htexts houtside hfree hopen depth,
    isFenced_spelled hcontent, stripped_inside_iff content⟩

/-- A document of a code span and nothing else. -/
def documentOf (content : String) : Document :=
  ⟨#[{ element := .document, firstChild := some 1, lastChild := some 1 },
    { element := .codeSpan, parent := some 0, firstChild := some 2, lastChild := some 2 },
    { element := .plainText (.owned content), parent := some 1 }]⟩

/-- Content with a space at either end is padded with another one, which a reader takes
away. -/
theorem walkTo_codeSpan_stripped_spaces :
    let children : List Tree := [.node { element := .plainText (.owned " a ") } []]
    let scene : Scene := ⟨[], documentOf " a ", {}⟩
    let bytes := Utf8.ofString "`  a  `"
    (documentOf " a ").Holds (.node { element := .codeSpan } children) 1 ∧
      (∀ child ∈ children, IsPlainText child) ∧
      Printer.spanContent [] children = Utf8.ofString " a " ∧
      newline ∉ Printer.spanContent [] children ∧
      scene.document.walkTo ((Renderer.standard {}).visit scene) 2 1
          { writer := .onto .unlimited } =
        .ok .proceed { writer := { LineWriter.onto .unlimited with buffer := bytes } } ∧
      IsFenced mark bytes 1 ∧ stripped (Utf8.ofString "  a  ") = Utf8.ofString " a " := by
  intro children scene bytes
  have hholds : (documentOf " a ").Holds (.node { element := .codeSpan } children) 1 :=
    ⟨by decide, rfl, [2], ⟨rfl, rfl, rfl, rfl, rfl⟩,
      2, [], rfl, ⟨by decide, rfl, [], ⟨rfl, rfl⟩, rfl⟩, rfl⟩
  have htexts : ∀ child ∈ children, IsPlainText child :=
    List.forall_mem_singleton.mpr ⟨_, _, rfl, rfl⟩
  have hcontent : Printer.spanContent [] children = Utf8.ofString " a " := by decide +kernel
  have hsome : Printer.spanContent [] children ≠ [] := by decide +kernel
  have hline : newline ∉ Printer.spanContent [] children := by decide +kernel
  have hfree : (LineWriter.onto .unlimited).Free := ⟨rfl, rfl⟩
  have hstyle : style (Utf8.decodeLossy (Utf8.ofString " a ")) = ⟨1, true⟩ := by decide +kernel
  have hinside : inside (Utf8.ofString " a ") = Utf8.ofString "  a  " := by decide +kernel
  have hbytes : fence ⟨1, true⟩ ++ (Utf8.ofString "  a  " ++ fence ⟨1, true⟩) = bytes := by
    decide +kernel
  have hlooks : ¬ LooksPadded (Utf8.ofString " a ") := by
    intro hlooks
    have ha := hlooks.blank 'a' (by decide +kernel)
    cases ha
  obtain ⟨hwalk, hfenced, hread⟩ := @walkTo_codeSpan_stripped {} scene 1 _ _ hholds rfl htexts
    hsome hline { writer := .onto .unlimited } rfl hfree List.not_mem_nil 0
  have hsource : scene.source = [] := rfl
  rw [hsource, hcontent, hstyle, hinside, hbytes] at hwalk hfenced
  rw [hsource, hcontent, hinside] at hread
  exact ⟨hholds, htexts, hcontent, hline, hwalk, hfenced, hread.mpr hlooks⟩

/-- A tab between two spaces is written without padding, so a reader takes both spaces
away. -/
theorem not_forall_render_codeSpan_stripped : ¬ ∀ (content : String) (fence inside : Bytes),
    content ≠ "" → '\n' ∉ content.toList →
    ((Renderer.standard {}).render .unlimited [] (documentOf content)).2.writer.sink.content =
      fence ++ (inside ++ fence) ++ [newline] →
    IsFenced mark (fence ++ (inside ++ fence)) fence.length →
    stripped inside = Utf8.ofString content := by
  intro hall
  have hfenced : IsFenced mark (Utf8.ofString "` \t `") 1 := by
    have hspelled := @isFenced_spelled (Utf8.ofString " \t ") (by decide +kernel)
    have hstyle : style (Utf8.decodeLossy (Utf8.ofString " \t ")) = ⟨1, false⟩ := by
      decide +kernel
    have hbytes : spelled ⟨1, false⟩ (Utf8.ofString " \t ") = Utf8.ofString "` \t `" := by
      decide +kernel
    simp only [hstyle, hbytes] at hspelled
    exact hspelled
  have hread := hall " \t " (Utf8.ofString "`") (Utf8.ofString " \t ") (by decide) (by decide)
    (by decide +kernel) hfenced
  exact absurd hread (by decide +kernel)

end CodeSpan

end MarkdownFormat
