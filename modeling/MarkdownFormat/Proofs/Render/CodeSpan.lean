/-
# Code spans and their fences

A code span stands between rows of backticks. Their length is the least that no run of
backticks in the content has, and the content is kept apart from them where it would touch
them with a backtick. So the rows are runs of their own, and no run between them is as long:
a reader finds the end of the span where it was meant to be, wherever the content is cut
into texts.
-/

import MarkdownFormat.Proofs.Render.InlinePrinting
import MarkdownFormat.Proofs.Text.Lossy

namespace MarkdownFormat

namespace CodeSpan

/-- The lengths that are collected are those of the runs of backticks. -/
theorem mem_runLengthsFrom (run : Nat) (text : List Char) (length : Nat) :
    length ∈ runLengthsFrom run text ↔
      HasRun backtick (List.replicate run backtick ++ text) length := by
  induction text generalizing run with
  | nil =>
      rw [runLengthsFrom, List.append_nil, HasRun.replicate_iff, Nat.pos_iff_ne_zero]
      split
      · next hzero => simp [hzero]
      · next hne => simp [hne]
  | cons c rest ih =>
      have hrest : length ∈ runLengthsFrom 0 rest ↔ HasRun backtick rest length := ih 0
      rw [runLengthsFrom]
      by_cases hmark : c = backtick
      · rw [if_pos hmark, ih, hmark, List.append_cons, ← List.replicate_succ']
      · have hsplit : HasRun backtick (List.replicate run backtick ++ c :: rest) length ↔
            HasRun backtick (List.replicate run backtick) length ∨ HasRun backtick rest length :=
          HasRun.replicate_append_iff (List.cons_ne_nil c []) (by simpa using Ne.symm hmark)
        rw [if_neg hmark, hsplit, ← hrest, HasRun.replicate_iff, Nat.pos_iff_ne_zero]
        split
        · next hzero => simp [hzero]
        · next hne => simp [hne]

/-- The search goes on over numbers that are taken, and stops at one that is not unless it
runs out of fuel. -/
theorem leastAbsent_spec (taken : List Nat) (fuel start : Nat) :
    let least := leastAbsent taken fuel start
    start ≤ least ∧ (∀ n, start ≤ n → n < least → n ∈ taken) ∧
      (least ∈ taken → start + fuel ≤ least) := by
  induction fuel generalizing start with
  | zero =>
      exact ⟨Nat.le_refl _, fun n hlow hhigh => absurd hhigh (Nat.not_lt.mpr hlow),
        fun _ => Nat.le_refl _⟩
  | succ fuel ih =>
      rw [leastAbsent]
      by_cases htaken : taken.contains start
      · obtain ⟨hle, hbetween, hlast⟩ := ih (start + 1)
        rw [if_pos htaken]
        refine ⟨Nat.le_of_succ_le hle, fun n hlow hhigh => ?_, fun hmem => ?_⟩
        · rcases Nat.eq_or_lt_of_le hlow with rfl | hlow
          · exact List.contains_iff_mem.mp htaken
          · exact hbetween n hlow hhigh
        · have := hlast hmem
          omega
      · rw [if_neg htaken]
        exact ⟨Nat.le_refl _, fun n hlow hhigh => absurd hhigh (Nat.not_lt.mpr hlow),
          fun hmem => absurd (List.contains_iff_mem.mpr hmem) htaken⟩

/-- There is fuel enough: a list cannot hold one number more than it has members. -/
theorem isLeastAbsentRun_fenceLength (text : List Char) :
    IsLeastAbsentRun backtick text (fenceLength text) := by
  have hmem : ∀ length, length ∈ runLengthsFrom 0 text ↔ HasRun backtick text length :=
    mem_runLengthsFrom 0 text
  obtain ⟨hpos, hbetween, hlast⟩ :=
    leastAbsent_spec (runLengthsFrom 0 text) (runLengthsFrom 0 text).length 1
  rw [fenceLength]
  refine ⟨hpos, fun hrun => ?_, fun length hlow hhigh => (hmem length).mp (hbetween length hlow hhigh)⟩
  rw [← hmem] at hrun
  have hlong := hlast hrun
  have hsub : List.range' 1 ((runLengthsFrom 0 text).length + 1) ⊆ runLengthsFrom 0 text := by
    intro n hn
    rw [List.mem_range'_1] at hn
    rcases Nat.lt_or_ge n (leastAbsent (runLengthsFrom 0 text) (runLengthsFrom 0 text).length 1)
      with hlt | hge
    · exact hbetween n hn.1 hlt
    · rwa [Nat.le_antisymm (by omega) hge]
  have hlength := ((List.nodup_range' 1).subperm hsub).length_le
  rw [List.length_range'] at hlength
  exact Nat.not_succ_le_self _ hlength

/-- Without padding, a text touches its fence with no backtick. -/
theorem ends_of_not_needsPadding {text : List Char} (hpadding : needsPadding text = false) :
    text.head? ≠ some backtick ∧ text.getLast? ≠ some backtick := by
  rw [needsPadding] at hpadding
  split at hpadding
  · next first last hfirst hlast =>
      simp only [Bool.or_eq_false_iff, decide_eq_false_iff_not] at hpadding
      rw [hfirst, hlast, Ne, Option.some.injEq, Ne, Option.some.injEq]
      exact ⟨hpadding.1.2, hpadding.2⟩
  · next hnone =>
      have hnil : text = [] := by
        rcases List.eq_nil_or_concat' text with hnil | ⟨front, last, rfl⟩
        · exact hnil
        · obtain ⟨first, hfirst⟩ := Option.isSome_iff_exists.mp
            (List.isSome_head?.mpr (List.append_ne_nil_of_right_ne_nil front (List.cons_ne_nil last [])))
          exact absurd (List.getLast?_concat ..) (hnone first last hfirst)
      simp [hnil]

/-- A backtick as a byte. -/
def mark : UInt8 := 0x60

/-- The fence of a span. -/
def fence (style : CodeSpanStyle) : Bytes :=
  List.replicate style.fence mark

/-- What keeps the content of a span apart from its fences. -/
def pad (style : CodeSpanStyle) : Bytes :=
  if style.padded then [0x20] else []

/-- A span with the given content. -/
def spelled (style : CodeSpanStyle) (content : Bytes) : Bytes :=
  fence style ++ (pad style ++ Render.joinedLines content ++ pad style ++ fence style)

/-- A code span is written without newlines. -/
theorem newline_notMem_spelled (style : CodeSpanStyle) (content : Bytes) :
    newline ∉ spelled style content := by
  have hmark : newline ≠ mark := by decide
  have hspace : newline ≠ 0x20 := by decide
  have hpad : newline ∉ pad style := by
    rw [pad]
    split <;> simp [hspace]
  have hjoined : newline ∉ Render.joinedLines content := by
    rw [Render.joinedLines, List.mem_map]
    rintro ⟨byte, -, heq⟩
    split at heq
    · exact hspace heq.symm
    · contradiction
  simp [spelled, fence, List.mem_replicate, hmark, hpad, hjoined]

/-- Backticks come first and then the pad. -/
theorem encode_opening (style : CodeSpanStyle) :
    Utf8.encode (opening style) = fence style ++ pad style := by
  rw [opening, Utf8.encode_append, backtick, Utf8.encode_replicate (by decide), fence, pad]
  split <;> rfl

/-- At the end the pad comes first. -/
theorem encode_closing (style : CodeSpanStyle) :
    Utf8.encode (closing style) = pad style ++ fence style := by
  rw [closing, Utf8.encode_append, backtick, Utf8.encode_replicate (by decide), fence, pad]
  split <;> rfl

/-- The backticks of a content are those of its bytes. -/
theorem sameMarks_content (content : Bytes) :
    SameMarks mark backtick content (Utf8.decodeLossy content) :=
  Utf8.sameMarks_decodeLossy (by decide) (by decide) content

/-- Newlines are no marks, and neither are the spaces in their place. -/
theorem getElem?_joinedLines (content : Bytes) (k : Nat) :
    (Render.joinedLines content)[k]? = some mark ↔ content[k]? = some mark := by
  rw [Render.joinedLines, List.getElem?_map, Option.map_eq_some_iff]
  constructor
  · rintro ⟨byte, hbyte, heq⟩
    split at heq
    · cases heq
    · rw [hbyte, heq]
  · intro hmark
    exact ⟨mark, hmark, rfl⟩

/-- The fence of a span is the least that is no run of its content. -/
theorem isLeastAbsentRun_content (content : Bytes) :
    IsLeastAbsentRun mark content (style (Utf8.decodeLossy content)).fence := by
  have hruns : ∀ length, HasRun mark content length ↔
      HasRun backtick (Utf8.decodeLossy content) length :=
    fun _ => (sameMarks_content content).hasRun_iff 0
  obtain ⟨hpos, habsent, hleast⟩ := isLeastAbsentRun_fenceLength (Utf8.decodeLossy content)
  refine ⟨hpos, mt (hruns _).mp habsent, fun length hlow hhigh => ?_⟩
  exact (hruns length).mpr (hleast length hlow hhigh)

/-- Joining lines does not change them. -/
theorem hasRun_joinedLines (content : Bytes) (length : Nat) :
    HasRun mark (Render.joinedLines content) length ↔ HasRun mark content length :=
  exists_congr fun _ => IsRun.congr (getElem?_joinedLines content)

/-- Content that is padded, or need not be, starts and ends with no mark, and padding adds no
run. -/
theorem ends_of_padded {content : Bytes} (hcontent : content ≠ []) :
    let style := style (Utf8.decodeLossy content)
    let inside := pad style ++ Render.joinedLines content ++ pad style
    inside ≠ [] ∧ inside.head? ≠ some mark ∧ inside.getLast? ≠ some mark ∧
      ∀ length, HasRun mark inside length → HasRun mark content length := by
  intro style inside
  have hjoined : Render.joinedLines content ≠ [] := by simpa [Render.joinedLines] using hcontent
  have hnonempty : inside ≠ [] := by simp [inside, hjoined]
  refine ⟨hnonempty, ?_⟩
  cases hpadded : needsPadding (Utf8.decodeLossy content) with
  | true =>
      have hinside : inside = [0x20] ++ (Render.joinedLines content ++ [0x20]) := by
        simp only [inside, style, CodeSpan.style, pad, hpadded, if_true, List.append_assoc]
      have hspace : mark ∉ [(0x20 : UInt8)] := by decide
      rw [hinside]
      refine ⟨by simp [mark], ?_, fun length hrun => ?_⟩
      · rw [← List.append_assoc, List.getLast?_concat]
        decide
      rw [HasRun.append_iff (.inl (by simp [mark])), HasRun.append_iff (.inr (by simp [mark])),
        hasRun_joinedLines] at hrun
      exact (hrun.resolve_left (HasRun.of_notMem hspace)).resolve_right (HasRun.of_notMem hspace)
  | false =>
      have hinside : inside = Render.joinedLines content := by
        simp [inside, style, CodeSpan.style, pad, hpadded]
      have hsame := sameMarks_content content
      obtain ⟨hfirst, hlast⟩ := ends_of_not_needsPadding hpadded
      rw [hinside]
      refine ⟨?_, ?_, fun length => (hasRun_joinedLines content length).mp⟩
      · rw [List.head?_eq_getElem?, Ne, getElem?_joinedLines, ← List.head?_eq_getElem?,
          hsame.head?_iff]
        exact hfirst
      · have hlength : (Render.joinedLines content).length = content.length := List.length_map _
        rw [List.getLast?_eq_getElem?, hlength, Ne, getElem?_joinedLines,
          ← List.getLast?_eq_getElem?, hsame.getLast?_iff]
        exact hlast

/-- The fences of a span delimit it. -/
theorem isFenced_spelled {content : Bytes} (hcontent : content ≠ []) :
    let style := style (Utf8.decodeLossy content)
    IsFenced mark (spelled style content) style.fence := by
  intro style
  have hleast := isLeastAbsentRun_content content
  obtain ⟨hnonempty, hfirst, hlast, hruns⟩ := ends_of_padded hcontent
  exact IsFenced.of_not_hasRun hleast.pos hnonempty hfirst hlast (mt (hruns _) hleast.absent)

/-- A text without a line break behind it, which has no children. -/
def IsPlainText (tree : Tree) : Prop :=
  ∃ label value, tree = .node label [] ∧ label.element = .plainText value

/-- The texts of a span are printed as its content, without newlines. -/
theorem inlineRow_texts {source : Bytes} {children : List Tree}
    (htexts : ∀ child ∈ children, IsPlainText child) (style : CodeSpanStyle) :
    Printer.inlineRow source (some style) children =
      (Render.joinedLines (Printer.spanContent source children), some style) := by
  induction children with
  | nil => rfl
  | cons child rest ih =>
      obtain ⟨⟨label, value, rfl, helement⟩, hrest⟩ := List.forall_mem_cons.mp htexts
      have hinline : Printer.inline source (some style) (.node label []) =
          (Render.joinedLines (value.bytes source), some style) := by
        rw [Printer.inline_of_ne (by rw [helement]; nofun), helement]
        simp [Printer.front, Printer.back, Printer.inlineRow, Element.plainText]
      have hcontent : Printer.spanContent source (.node label [] :: rest) =
          value.bytes source ++ Printer.spanContent source rest := by
        simp only [Printer.spanContent, List.flatMap_cons, Tree.label, helement, Element.plainText]
      simp only [Printer.inlineRow, hinline, ih hrest, hcontent, Render.joinedLines,
        List.map_append]

/-- A code span prints its content between backticks and pads. -/
theorem inline_codeSpan {source : Bytes} {label : Label} (hspan : label.element = .codeSpan)
    {children : List Tree} (htexts : ∀ child ∈ children, IsPlainText child) :
    let content := Printer.spanContent source children
    Printer.inline source none (.node label children) =
      (spelled (style (Utf8.decodeLossy content)) content, none) := by
  intro content
  rw [Printer.inline_codeSpan hspan, inlineRow_texts htexts, encode_opening, Option.getD_some,
    encode_closing, spelled]
  simp only [content, List.append_assoc]

/-- Texts are what a reader reports in a code span. -/
theorem areMarkdown_texts {children : List Tree}
    (htexts : ∀ child ∈ children, IsPlainText child) :
    Tree.areMarkdown .codeSpan children ∧ Tree.heightOfRow children ≤ 1 := by
  induction children with
  | nil => exact ⟨rfl, Nat.zero_le 1⟩
  | cons child rest ih =>
      obtain ⟨⟨label, value, rfl, helement⟩, hrest⟩ := List.forall_mem_cons.mp htexts
      obtain ⟨hmarkdown, hheight⟩ := ih hrest
      constructor
      · simp only [Tree.areMarkdown, Tree.isMarkdown, Tree.kind, Tree.label, helement, hmarkdown,
          Bool.and_true]
        rfl
      · exact Nat.max_le.mpr ⟨Nat.le_refl 1, hheight⟩

/-- A code span whose children are texts adds one to the line: its content without newlines
between fences that delimit it and are as short as they can be. -/
theorem walkTo_codeSpan (config : Config) {scene : Scene} {id : NodeId} {label : Label}
    {children : List Tree} (hholds : scene.document.Holds (.node label children) id)
    (hspan : label.element = .codeSpan) (htexts : ∀ child ∈ children, IsPlainText child)
    (hcontent : Printer.spanContent scene.source children ≠ []) {state : RenderState}
    (houtside : state.codeSpan = none) (hfree : state.writer.Free)
    (hopen : newline ∉ state.writer.buffer) (depth : Nat) :
    let content := Printer.spanContent scene.source children
    let style := style (Utf8.decodeLossy content)
    let bytes := fence style ++ (pad style ++ Render.joinedLines content ++ pad style ++ fence style)
    scene.document.walkTo ((Renderer.standard config).visit scene) (depth + 2) id state =
        .ok .proceed { state with
          writer := { state.writer with buffer := state.writer.buffer ++ bytes } } ∧
      IsFenced mark bytes style.fence ∧ IsLeastAbsentRun mark content style.fence ∧
      style.fence ≤ {length | HasRun mark content length}.ncard + 1 := by
  intro content style bytes
  have hleast : IsLeastAbsentRun mark content style.fence := isLeastAbsentRun_content content
  refine ⟨?_, isFenced_spelled hcontent, hleast, hleast.le_ncard⟩
  obtain ⟨hchildren, hheight⟩ := areMarkdown_texts htexts
  have hmarkdown : (Tree.node label children).isMarkdown := by
    simp only [Tree.isMarkdown, hspan]
    exact hchildren
  have hinline : (Tree.node label children).kind.isBlock = false := by
    simp only [Tree.kind, Tree.label, hspan]
    rfl
  have hdepth : (Tree.node label children).height ≤ depth + 2 :=
    Nat.le_trans (Nat.succ_le_succ hheight) (Nat.le_add_left 2 depth)
  obtain ⟨script, hchecked, hfeeds⟩ :=
    (@walk_inline scene config).1 _ id (depth + 2) state hholds hmarkdown hinline hdepth
  rw [houtside, inline_codeSpan hspan htexts] at hchecked hfeeds
  have hwalk := (hchecked state.writer _ hfree.sound (hfeeds _ hfree hopen)).1 (hfree.put _).sound
  rw [hfree.put_of_notMem hopen (newline_notMem_spelled _ _)] at hwalk
  rw [hwalk, houtside]
  rfl

/-- Texts that a run of two backticks is cut into, with a line ending in the second. -/
def cutTexts : List Tree :=
  [.node { element := .plainText (.owned "`a`") } [],
    .node { element := .plainText (.owned "`\nb") } []]

/-- A document with a code span that holds the texts. -/
def cutDocument : Document :=
  ⟨#[{ element := .document, firstChild := some 1, lastChild := some 1 },
    { element := .codeSpan, parent := some 0, firstChild := some 2, lastChild := some 3 },
    { element := .plainText (.owned "`a`"), parent := some 1, next := some 3 },
    { element := .plainText (.owned "`\nb"), parent := some 1, previous := some 2 }]⟩

/-- There are runs of one and two backticks, so the fence has three of them. -/
theorem walkTo_codeSpan_cut :
    let scene : Scene := ⟨[], cutDocument, {}⟩
    let bytes := Utf8.ofString "``` `a`` b ```"
    cutDocument.Holds (.node { element := .codeSpan } cutTexts) 1 ∧
      (∀ child ∈ cutTexts, IsPlainText child) ∧
      Printer.spanContent [] cutTexts = Utf8.ofString "`a``\nb" ∧
      scene.document.walkTo ((Renderer.standard {}).visit scene) 4 1
          { writer := .onto .unlimited } =
        .ok .proceed { writer := { LineWriter.onto .unlimited with buffer := bytes } } ∧
      IsFenced mark bytes 3 ∧ IsLeastAbsentRun mark (Utf8.ofString "`a``\nb") 3 := by
  intro scene bytes
  have hholds : cutDocument.Holds (.node { element := .codeSpan } cutTexts) 1 :=
    ⟨by decide, rfl, [2, 3], ⟨rfl, rfl, rfl, rfl, rfl, rfl, rfl, rfl⟩,
      2, [3], rfl, ⟨by decide, rfl, [], ⟨rfl, rfl⟩, rfl⟩,
      3, [], rfl, ⟨by decide, rfl, [], ⟨rfl, rfl⟩, rfl⟩, rfl⟩
  have htexts : ∀ child ∈ cutTexts, IsPlainText child :=
    List.forall_mem_cons.mpr ⟨⟨_, _, rfl, rfl⟩, List.forall_mem_singleton.mpr ⟨_, _, rfl, rfl⟩⟩
  have hcontent : Printer.spanContent [] cutTexts = Utf8.ofString "`a``\nb" := by decide +kernel
  have hstyle : style (Utf8.decodeLossy (Utf8.ofString "`a``\nb")) = ⟨3, true⟩ := by decide +kernel
  have hspelled : spelled ⟨3, true⟩ (Utf8.ofString "`a``\nb") = bytes := by decide +kernel
  have hfree : (LineWriter.onto .unlimited).Free := ⟨rfl, rfl⟩
  have hopen : newline ∉ (LineWriter.onto .unlimited).buffer := List.not_mem_nil
  have hsome : Printer.spanContent [] cutTexts ≠ [] := by
    rw [hcontent]
    decide +kernel
  obtain ⟨hwalk, hfenced, hleast, -⟩ := @walkTo_codeSpan {} scene 1 _ _ hholds rfl htexts hsome
    { writer := .onto .unlimited } rfl hfree hopen 2
  have hsource : scene.source = [] := rfl
  rw [hsource, hcontent, hstyle] at hwalk hfenced hleast
  rw [← hspelled]
  exact ⟨hholds, htexts, hcontent, hwalk, hfenced, hleast⟩

end CodeSpan

end MarkdownFormat
