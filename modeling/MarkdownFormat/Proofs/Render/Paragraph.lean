/-
# Paragraphs come out as they are spelled

The events of a paragraph tell where its texts, its raw HTML, its autolinks and the ends of
its lines stand in the source. The backslash of an escape is in none of these ranges, and
texts that follow one another become one text. `Passage.Tile` says that the ranges leave
out nothing but such backslashes. Then the children of the paragraph that are known so far
always print as the source so far, whatever has become of the events before.
-/

import MarkdownFormat.Proofs.Event.BlankBefore
import MarkdownFormat.Proofs.Event.Nesting
import MarkdownFormat.Proofs.Render.Printing

namespace MarkdownFormat

namespace Passage

/-- Whether a passage is a text within the source. -/
def IsText (source : Bytes) (passage : Passage) : Prop :=
  ∃ content range, passage = .event ⟨.text content, range⟩ ∧ range.isWithin source

/-- What a passage stands for in the source, from one place to another. A text that starts
with an escaped character stands for the backslash, too. -/
inductive Covers (source : Bytes) : Passage → Nat → Nat → Prop
  | text (content : String) {range : Segment} (hrange : range.isWithin source) :
      Covers source (.event ⟨.text content, range⟩) range.start range.stop
  | escaped (content : String) {start stop : Nat} (hbackslash : source[start]? = some 0x5C)
      (hescaped : (Segment.bytes source ⟨start + 1, stop⟩).head?.any isPunctuationByte)
      (hstop : stop ≤ source.length) :
      Covers source (.event ⟨.text content, ⟨start + 1, stop⟩⟩) start stop
  | inlineHtml (content : String) {range : Segment}
      (hslice : Spelling.slice? source range = some (Utf8.ofString content))
      (hlast : (range.bytes source).getLast? = some 0x3E) :
      Covers source (.event ⟨.inlineHtml content, range⟩) range.start range.stop
  | autolink {form : LinkForm} (destination title : String) {range closing : Segment}
      {inside : List Passage} (hform : form = .autolink ∨ form = .email)
      (hrange : range.isWithin source) (hclosing : closing.isWithin source)
      (hfirst : (range.bytes source).head? = some 0x3C)
      (hlast : (range.bytes source).getLast? = some 0x3E)
      (hinside : ∀ passage ∈ inside, passage.IsText source) :
      Covers source (.construct (.link form destination title) range closing inside)
        range.start range.stop
  | softBreak {start : Nat} (hnewline : source[start]? = some newline) :
      Covers source (.event ⟨.softBreak, ⟨start, start + 1⟩⟩) start (start + 1)

/-- Passages that stand one after the other for the source from one place to another. -/
inductive Tile (source : Bytes) : List Passage → Nat → Nat → Prop
  | nil (place : Nat) : Tile source [] place place
  | cons {passage : Passage} {rest : List Passage} {start middle stop : Nat}
      (hpassage : passage.Covers source start middle) (hrest : Tile source rest middle stop) :
      Tile source (passage :: rest) start stop

end Passage

namespace Passage

variable {source : Bytes} {passage : Passage} {start stop : Nat}

/-- The character behind a backslash is in the text. -/
theorem head?_escaped
    (hescaped : (Segment.bytes source ⟨start + 1, stop⟩).head?.any isPunctuationByte) :
    start + 1 < stop ∧ source[start + 1]?.any isPunctuationByte := by
  rw [Option.any_eq_true] at hescaped
  obtain ⟨byte, hbyte, hpunctuation⟩ := hescaped
  obtain ⟨hlt, hsource⟩ := Segment.head?_bytes hbyte
  exact ⟨hlt, by rwa [hsource, Option.any_some]⟩

/-- A passage covers a part of the source. -/
theorem Covers.bounds (hcovers : passage.Covers source start stop) :
    start ≤ stop ∧ stop ≤ source.length := by
  cases hcovers with
  | text _ hrange | autolink _ _ _ hrange =>
      simpa only [Segment.isWithin, Bool.and_eq_true, decide_eq_true_eq] using hrange
  | escaped _ _ hescaped hstop =>
      exact ⟨Nat.le_of_lt (Nat.lt_of_succ_lt (head?_escaped hescaped).1), hstop⟩
  | inlineHtml _ hslice => exact (Option.ite_none_right_eq_some.mp hslice).1
  | softBreak hnewline => exact ⟨Nat.le_succ start, (List.getElem?_eq_some_iff.mp hnewline).1⟩

/-- Texts are sound without more. -/
theorem areSound_of_isText {inside : List Passage}
    (hinside : ∀ passage ∈ inside, passage.IsText source) : areSound source inside := by
  induction inside with
  | nil => rfl
  | cons passage rest ih =>
      obtain ⟨⟨content, range, rfl, hrange⟩, hrest⟩ := List.forall_mem_cons.mp hinside
      rw [areSound, isSound, hrange, ih hrest]
      rfl

/-- The texts of an autolink are left out. -/
theorem filter_partsOf_of_isText {inside : List Passage}
    (hinside : ∀ passage ∈ inside, passage.IsText source) :
    (partsOf source inside).filter Part.isNoText = [] := by
  induction inside with
  | nil => rfl
  | cons passage rest ih =>
      obtain ⟨⟨content, range, rfl, -⟩, hrest⟩ := List.forall_mem_cons.mp hinside
      rw [partsOf, List.filter_cons_of_neg (by simp [part, PlacedEvent.part, Part.isNoText]),
        ih hrest]

/-- A passage that covers a part of the source is sound. -/
theorem Covers.isSound (hcovers : passage.Covers source start stop) : passage.isSound source := by
  have hbounds := hcovers.bounds
  cases hcovers with
  | text _ hrange => simp [Passage.isSound, hrange, Event.isSingle]
  | escaped _ _ hescaped hstop =>
      have hlt := (head?_escaped hescaped).1
      simp [Passage.isSound, Segment.isWithin, Event.isSingle, hstop, Nat.le_of_lt hlt]
  | inlineHtml => simp [Passage.isSound, Segment.isWithin, Event.isSingle, hbounds]
  | autolink _ _ hform hrange hclosing _ _ hinside =>
      simp [Passage.isSound, hrange, hclosing, areSound_of_isText hinside, Tag.admits,
        Tag.isVerbatim]
  | softBreak => simp [Passage.isSound, Segment.isWithin, Event.isSingle, hbounds]

/-- So are passages that tile it. -/
theorem Tile.isSound {passages : List Passage} (htile : Tile source passages start stop) :
    areSound source passages ∧ start ≤ stop ∧ (start < stop → stop ≤ source.length) := by
  induction htile with
  | nil place => exact ⟨rfl, Nat.le_refl _, fun hlt => absurd hlt (Nat.lt_irrefl _)⟩
  | cons hpassage hrest ih =>
      obtain ⟨hsound, hle, hstop⟩ := ih
      obtain ⟨hstart, hmiddle⟩ := hpassage.bounds
      refine ⟨by rw [areSound, hpassage.isSound, hsound, Bool.and_self],
        Nat.le_trans hstart hle, fun _ => ?_⟩
      rcases Nat.lt_or_eq_of_le hle with hlt | heq
      · exact hstop hlt
      · exact heq ▸ hmiddle

end Passage

/-- A text behind no backslash starts where its range does. -/
theorem textStart?_of_unescaped {source : Bytes} {start : Nat} (hstart : start ≤ source.length)
    (hunescaped : 0 < start → source[start - 1]? ≠ some 0x5C) :
    Spelling.textStart? source start = some start := by
  cases start with
  | zero => rfl
  | succ before =>
      obtain ⟨byte, hbyte⟩ : ∃ byte, source[before]? = some byte :=
        ⟨_, List.getElem?_eq_getElem hstart⟩
      have hunescaped : source[before]? ≠ some 0x5C := hunescaped (Nat.succ_pos before)
      rw [hbyte] at hunescaped
      have hne : byte ≠ 0x5C := fun heq => hunescaped (congrArg some heq)
      simp [Spelling.textStart?, hbyte, hne]

/-- A text may start earlier than its range, and never later. -/
theorem textStart_le (source : Bytes) (start : Nat) :
    (Spelling.textStart? source start).getD start ≤ start := by
  cases hstart : Spelling.textStart? source start with
  | none => exact Nat.le_refl _
  | some first => exact Spelling.textStart?_le hstart

namespace Printer

variable (source : Bytes)

/-- One more child prints behind the others. -/
theorem content_concat (trees : List Tree) (tree : Tree) :
    content source (trees ++ [tree]) = content source trees ++ (inline source none tree).1 := by
  induction trees with
  | nil => simp [content, inlineRow]
  | cons first rest ih =>
      have hclosed := (inline_closed source).1 first
      rw [content] at ih ⊢
      simp only [List.cons_append, inlineRow, hclosed, ih, content, List.append_assoc]

/-- A text prints its range, with the backslash before it. -/
theorem inline_textTree (range : Segment) :
    (inline source none (textTree source range {})).1 = Segment.bytes source
      ⟨(Spelling.textStart? source range.start).getD range.start, range.stop⟩ := by
  simp [textTree, inline, inlineRow, front, back, Value.bytes]

/-- With a line break it prints a newline more. -/
theorem inline_textTree_softBreak (range : Segment) :
    (inline source none (textTree source range { soft := true })).1 =
      (inline source none (textTree source range {})).1 ++ [newline] := by
  simp [textTree, inline, inlineRow, front, back]

end Printer

/-- One more child has to be one that a reader reports. -/
theorem Tree.areMarkdown_concat {parent : Kind} (trees : List Tree) (tree : Tree) :
    areMarkdown parent (trees ++ [tree]) =
      (areMarkdown parent trees && (parent.mayHold tree.kind && tree.isMarkdown)) := by
  induction trees with
  | nil => simp [areMarkdown]
  | cons first rest ih => simp [areMarkdown, ih, Bool.and_assoc]

namespace OpenRow

/-- The children of a paragraph that are known so far print as the source between two
places. A text at their end may go on; where there is none, the next byte is not escaped. -/
structure Shows (source : Bytes) (run : OpenRow) (first place : Nat) : Prop where
  content_eq : Printer.content source (run.all source) = Segment.bytes source ⟨first, place⟩
  markdown : Tree.areMarkdown .paragraph (run.all source)
  first_le : first ≤ place
  text : ∀ range growing, run.text = some (range, growing) →
    growing ∧ range.start ≤ range.stop ∧ range.stop = place
  unescaped : run.text = none → 0 < place → source[place - 1]? ≠ some 0x5C

namespace Shows

variable {source : Bytes} {run : OpenRow} {first place next : Nat}

/-- A paragraph starts with no children. -/
theorem start (hunescaped : 0 < first → source[first - 1]? ≠ some 0x5C) :
    ({} : OpenRow).Shows source first first where
  content_eq := by simp [Segment.bytes, Segment.length, Printer.content, Printer.inlineRow, all]
  markdown := rfl
  first_le := Nat.le_refl _
  text := by simp
  unescaped _ := hunescaped

variable (hshows : run.Shows source first place)
include hshows

/-- An inline node that prints as the next part of the source goes on with it. -/
theorem place_inline {tree : Tree} (hplace : place ≤ next)
    (hkind : Kind.paragraph.mayHold tree.kind) (htree : tree.isMarkdown)
    (hbytes : (Printer.inline source none tree).1 = Segment.bytes source ⟨place, next⟩)
    (hunescaped : source[next - 1]? ≠ some 0x5C) :
    (run.place source (.inline tree)).Shows source first next where
  content_eq := by
    rw [OpenRow.place, all_none, Printer.content_concat, hshows.content_eq, hbytes,
      Segment.bytes_append hshows.first_le hplace]
  markdown := by
    rw [OpenRow.place, all_none, Tree.areMarkdown_concat, hshows.markdown, hkind, htree]
    rfl
  first_le := Nat.le_trans hshows.first_le hplace
  text := by simp [OpenRow.place]
  unescaped _ _ := hunescaped

/-- A text goes on over what it left out, or else it starts at the place, with the backslash
that may stand there. -/
theorem place_text {range : Segment} (hplace : place ≤ range.start)
    (hrange : range.start ≤ range.stop)
    (hstart : run.text = none → Spelling.textStart? source range.start = some place) :
    (run.place source (.text range)).Shows source first range.stop := by
  have hle := Nat.le_trans hplace hrange
  have hsplit := @Segment.bytes_append source _ _ _ hshows.first_le hle
  have hcontent := hshows.content_eq
  have hmarkdown := hshows.markdown
  obtain ⟨trees, _ | ⟨last, growing⟩⟩ := run
  · refine ⟨?_, ?_, Nat.le_trans hshows.first_le hle, ?_, by simp [OpenRow.place]⟩
    · rw [OpenRow.place, all_some, Printer.content_concat, Printer.inline_textTree, hstart rfl,
        Option.getD_some, hcontent, hsplit]
    · rw [OpenRow.place, all_some, Tree.areMarkdown_concat, hmarkdown]
      rfl
    · rintro _ _ heq
      cases heq
      exact ⟨rfl, hrange, rfl⟩
  · obtain ⟨rfl, hlast, rfl⟩ := hshows.text last growing rfl
    rw [all_some] at hcontent hmarkdown
    refine ⟨?_, ?_, Nat.le_trans hshows.first_le hle, ?_, by simp [OpenRow.place]⟩
    · have hbefore := Nat.le_trans (textStart_le source last.start) hlast
      rw [Printer.content_concat, Printer.inline_textTree] at hcontent
      rw [OpenRow.place, all_some, Printer.content_concat, Printer.inline_textTree,
        ← Segment.bytes_append hbefore hle, ← List.append_assoc, hcontent, hsplit]
    · rw [Tree.areMarkdown_concat, Bool.and_eq_true] at hmarkdown
      rw [OpenRow.place, all_some, Tree.areMarkdown_concat, hmarkdown.1]
      rfl
    · rintro _ _ heq
      cases heq
      exact ⟨rfl, Nat.le_trans hlast hle, rfl⟩

/-- A line break marks the text before it, or stands for itself. -/
theorem place_softBreak (hnewline : source[place]? = some newline) :
    (run.place source (.lineBreak { soft := true })).Shows source first (place + 1) := by
  have hsplit := @Segment.bytes_append source _ _ _ hshows.first_le (Nat.le_succ place)
  rw [Segment.bytes_singleton hnewline] at hsplit
  have hcontent := hshows.content_eq
  have hmarkdown := hshows.markdown
  have hunescaped : source[place + 1 - 1]? ≠ some 0x5C := by simp [hnewline, newline]
  obtain ⟨trees, _ | ⟨last, growing⟩⟩ := run
  · rw [all_none] at hcontent hmarkdown
    refine ⟨?_, ?_, Nat.le_succ_of_le hshows.first_le, by simp [OpenRow.place],
      fun _ _ => hunescaped⟩
    · rw [OpenRow.place, all_none, Printer.content_concat, hcontent, ← hsplit]
      rfl
    · rw [OpenRow.place, all_none, Tree.areMarkdown_concat, hmarkdown]
      rfl
  · rw [all_some] at hcontent hmarkdown
    refine ⟨?_, ?_, Nat.le_succ_of_le hshows.first_le, by simp [OpenRow.place],
      fun _ _ => hunescaped⟩
    · rw [Printer.content_concat] at hcontent
      rw [OpenRow.place, all_none, Printer.content_concat, Printer.inline_textTree_softBreak,
        ← List.append_assoc, hcontent, hsplit]
    · rw [Tree.areMarkdown_concat, Bool.and_eq_true] at hmarkdown
      rw [OpenRow.place, all_none, Tree.areMarkdown_concat, hmarkdown.1]
      rfl

/-- Every passage adds what it covers. -/
theorem place_part {passage : Passage} (hcovers : passage.Covers source place next) :
    (run.place source (passage.part source)).Shows source first next := by
  obtain ⟨hplace, hnext⟩ := hcovers.bounds
  cases hcovers with
  | text content hrange =>
      exact hshows.place_text (Nat.le_refl _) hplace fun hnone =>
        textStart?_of_unescaped (Nat.le_trans hplace hnext) (hshows.unescaped hnone)
  | escaped content hbackslash hescaped hstop =>
      obtain ⟨hlt, hpunctuation⟩ := Passage.head?_escaped hescaped
      refine hshows.place_text (Nat.le_succ _) (Nat.le_of_lt hlt) fun _ => ?_
      simp [Spelling.textStart?, hbackslash, hpunctuation]
  | @inlineHtml content range hslice hlast =>
      have hpart : (Passage.event ⟨.inlineHtml content, range⟩).part source =
          .inline (.node { element := .rawHtml [.source range] } []) := by
        simp [Passage.part, PlacedEvent.part, hslice]
      rw [hpart]
      apply hshows.place_inline hplace rfl rfl
      · simp [Printer.inline, Printer.inlineRow, Printer.front, Printer.back, Value.bytes]
      · rw [(Segment.getLast?_bytes hnext hlast).2]
        decide
  | @autolink form destination title range closing inside hform _ _ hfirst hlast hinside =>
      have hpart : (Passage.construct (.link form destination title) range closing inside).part
          source = .inline (.node
            { element := .autoLink (.source ⟨range.start + 1, range.stop - 1⟩) } []) := by
        rcases hform with rfl | rfl <;>
          simp [Passage.part, Tag.isVerbatim, Tag.part, Tag.isInline, Tag.element, childrenOf,
            Element.kind, Passage.filter_partsOf_of_isText hinside, childRow, joinTexts, withBreaks,
            Passage.linesOf]
      rw [hpart]
      apply hshows.place_inline hplace rfl rfl
      · rw [Segment.bytes_between hnext hfirst hlast (by decide)]
        rfl
      · rw [(Segment.getLast?_bytes hnext hlast).2]
        decide
  | softBreak hnewline => exact hshows.place_softBreak hnewline

/-- So do all passages one after the other. -/
theorem foldl_place {passages : List Passage} (htile : Passage.Tile source passages place next) :
    ((Passage.partsOf source passages).foldl (OpenRow.place source) run).Shows source first
      next := by
  induction htile generalizing run with
  | nil place => exact hshows
  | cons hpassage hrest ih =>
      rw [Passage.partsOf, List.foldl_cons]
      exact ih (hshows.place_part hpassage)

end Shows

end OpenRow

namespace Printer

/-- What a code span holds does not depend on the ranges of nodes. -/
theorem spanContent_bareRow (source : Bytes) (trees : List Tree) :
    spanContent source (Tree.bareRow trees) = spanContent source trees := by
  induction trees with
  | nil => rfl
  | cons tree rest ih =>
      cases tree
      simp only [spanContent, Tree.bareRow, List.flatMap_cons] at ih ⊢
      rw [ih]
      rfl

/-- Inline nodes are printed without a look at their ranges. -/
theorem inline_bare (source : Bytes) :
    (∀ tree openSpan, inline source openSpan (Tree.bare tree) = inline source openSpan tree) ∧
      ∀ trees openSpan,
        inlineRow source openSpan (Tree.bareRow trees) = inlineRow source openSpan trees := by
  apply Tree.rows_induction
  · intro label children ih openSpan
    simp only [Tree.bare, inline, spanContent_bareRow, ih]
  · intro openSpan
    rfl
  · intro tree rest ihTree ihRest openSpan
    simp only [Tree.bareRow, inlineRow, ihTree, ihRest]

end Printer

/-- Links and ranges do not matter for what a reader reports. -/
theorem Tree.isMarkdown_bare :
    (∀ tree : Tree, tree.bare.isMarkdown = tree.isMarkdown) ∧
      ∀ (trees : List Tree) (parent : Kind),
        areMarkdown parent (bareRow trees) = areMarkdown parent trees := by
  apply Tree.rows_induction
  · intro label children ih
    simp only [bare, isMarkdown, ih]
  · intro parent
    rfl
  · intro tree rest ihTree ihRest parent
    cases tree
    simp only [bareRow, areMarkdown, ihTree, ihRest]
    rfl

namespace Renderer

/-- The lines that some bytes come to are what stands between their newlines, unless the
last of them is one. -/
theorem linesOf_eq_splitOn {bytes : Bytes} (hnonempty : bytes ≠ [])
    (hlast : bytes.getLast? ≠ some newline) : linesOf bytes = bytes.splitOn newline := by
  have hopen : (splitLines bytes).2 ≠ [] := by
    obtain ⟨front, byte, rfl⟩ := (List.eq_nil_or_concat' bytes).resolve_left hnonempty
    have hbyte : newline ≠ byte := by
      simpa [eq_comm] using hlast
    have hnone : newline ∉ (splitLines front).2 ++ [byte] := by
      simpa [hbyte] using newline_notMem_splitLines_snd front
    rw [splitLines_append, splitLines_of_notMem hnone]
    simp
  rw [linesOf, splitOn_newline, if_neg hopen]

/-- What a document prints whose only block is a paragraph. -/
theorem print_paragraph {config : Config} {source : Bytes} {tree : Tree} {children : List Tree}
    (hbare : tree.bare = .node { element := .document }
      [.node { element := .paragraph } (Tree.bareRow children)])
    (hchildren : Tree.areMarkdown .paragraph children) :
    tree.kind = .document ∧ tree.isMarkdown ∧ ∀ previous,
      Printer.block config source previous tree = linesOf (Printer.content source children) := by
  have hmarkdown : tree.isMarkdown := by
    rw [← Tree.isMarkdown_bare.1, hbare]
    simp only [Tree.isMarkdown, Tree.areMarkdown, Tree.isMarkdown_bare.2, Tree.kind, Tree.label,
      Bool.and_true]
    exact hchildren
  obtain ⟨label, row⟩ := tree
  rw [Tree.bare, Tree.node.injEq] at hbare
  obtain ⟨hlabel, hrow⟩ := hbare
  have helement : label.element = .document := congrArg Label.element hlabel
  cases row with
  | nil => cases hrow
  | cons first rest =>
      obtain ⟨inner, inlines⟩ := first
      simp only [Tree.bareRow, Tree.bare, List.cons.injEq, Tree.node.injEq] at hrow
      obtain ⟨⟨hinner, hinlines⟩, hrest⟩ := hrow
      have hrest : rest = [] := by
        cases rest with
        | nil => rfl
        | cons => cases hrest
      subst hrest
      have hparagraph : inner.element = .paragraph := congrArg Label.element hinner
      refine ⟨congrArg Element.kind helement, hmarkdown, fun previous => ?_⟩
      have hcontent : Printer.content source inlines = Printer.content source children := by
        rw [Printer.content, ← (Printer.inline_bare source).2, hinlines,
          (Printer.inline_bare source).2, Printer.content]
      simp [Printer.block, helement, Printer.row, hparagraph, Printer.separation, Printer.plain,
        hcontent]

/-- A paragraph is written as it stands in the source, line by line without the blanks at the
ends, if its events leave out nothing but the backslashes of escapes. -/
theorem render_paragraph (config : Config) {source : Bytes} {range closing : Segment}
    {inside : List Passage} (htile : Passage.Tile source inside range.start range.stop)
    (hnonempty : range.start < range.stop)
    (hlast : (range.bytes source).getLast? ≠ some newline)
    (hunescaped : 0 < range.start → source[range.start - 1]? ≠ some 0x5C) :
    ∃ doc last,
      Document.ofEvents? source (Passage.construct .paragraph range closing inside).events =
        some doc ∧
      (standard config).render .unlimited source doc = (none, last) ∧
      last.writer.sink.content = ((range.bytes source).splitOn newline).flatMap fun line =>
        trimmedLine line ++ [newline] := by
  obtain ⟨hinside, hle, hstop⟩ := htile.isSound
  -- Where the end of a paragraph is reported does not matter.
  let passages : List Passage := [.construct .paragraph range range inside]
  have hevents : Document.ofEvents? source (Passage.eventsOfRow passages) =
      Document.ofEvents? source (Passage.construct .paragraph range closing inside).events := by
    simp only [passages, Passage.eventsOfRow, Passage.events, List.append_nil, Document.ofEvents?,
      Assembly.ofEvents, List.foldl_cons, List.foldl_append]
    rfl
  have hsound : Passage.areSound source passages := by
    have hrange : range.isWithin source := by simp [Segment.isWithin, hle, hstop hnonempty]
    simp [passages, Passage.areSound, Passage.isSound, hinside, hrange, Tag.admits,
      Tag.isVerbatim]
  obtain ⟨doc, tree, hdoc, hholds, hbare, -⟩ := Document.ofEvents?_eventsOfRow hsound
  have hprevious := Document.previous_root_ofEvents
    (isWithin_of_areClosedBy (isWellNested_iff.mpr ⟨passages, hsound, rfl⟩)) hdoc
  -- The children of the paragraph show the whole range.
  have hshows := (OpenRow.Shows.start hunescaped).foldl_place htile
  generalize hrun : (Passage.partsOf source inside).foldl (OpenRow.place source) {} = run at hshows
  have hchildren : childRow source (Passage.partsOf source inside) = run.all source := by
    rw [← hrun, OpenRow.all_foldl_place]
    rfl
  have hdocument : (Passage.documentTree source passages).bare = .node { element := .document }
      [.node { element := .paragraph } (Tree.bareRow (run.all source))] := by
    rw [← hchildren]
    rfl
  obtain ⟨hkind, hmarkdown, hblock⟩ :=
    @print_paragraph config source _ _ (hbare.trans hdocument) hshows.markdown
  obtain ⟨script, hwalk, hemits⟩ := ((walk_block config ⟨source, doc, config⟩).1 tree
    Document.root doc.size { writer := LineWriter.onto .unlimited } hholds hmarkdown
    (by rw [hkind]; rfl) hholds.height_le_size rfl).1 (by rw [hkind]; decide)
  have hlines : Printer.separation (Scene.previousKind ⟨source, doc, config⟩ Document.root)
      tree.label ++ Printer.block config source
        (Scene.previousKind ⟨source, doc, config⟩ Document.root) tree =
      (range.bytes source).splitOn newline := by
    have hbytes : range.bytes source ≠ [] := by
      rw [← List.length_pos_iff, Segment.length_bytes (hstop hnonempty)]
      exact Nat.sub_pos_of_lt hnonempty
    have hfirst : Scene.previousKind ⟨source, doc, config⟩ Document.root = none := by
      rw [Scene.previousKind, Scene.node, hprevious, Option.map_none]
    rw [hfirst, hblock, hshows.content_eq, linesOf_eq_splitOn hbytes hlast]
    rfl
  rw [hlines] at hemits
  obtain ⟨last, hrender, hreceived⟩ := renderNode_of_emits rfl hwalk hemits.flushLine
  refine ⟨doc, last, hevents.symm.trans hdoc, hrender, ?_⟩
  rw [Sink.content, hreceived]
  rfl

/-- Two escapes, one of them behind raw HTML, an autolink and a second line. -/
def mixedSource : Bytes :=
  Utf8.ofString "\n\\*a<b>\\_<x:y> \nc"

/-- What a reader reports inside of the paragraph. -/
def mixedPassages : List Passage :=
  [.event ⟨.text "*", ⟨2, 3⟩⟩, .event ⟨.text "a", ⟨3, 4⟩⟩, .event ⟨.inlineHtml "<b>", ⟨4, 7⟩⟩,
    .event ⟨.text "_", ⟨8, 9⟩⟩,
    .construct (.link .autolink "x:y" "") ⟨9, 14⟩ ⟨9, 14⟩ [.event ⟨.text "x:y", ⟨10, 13⟩⟩],
    .event ⟨.text " ", ⟨14, 15⟩⟩, .event ⟨.softBreak, ⟨15, 16⟩⟩, .event ⟨.text "c", ⟨16, 17⟩⟩]

/-- Both backslashes are kept, and the space in front of the line ending is cut. -/
theorem render_paragraph_mixed :
    Passage.Tile mixedSource mixedPassages 1 17 ∧ Segment.isWithin mixedSource ⟨1, 17⟩ ∧
      (Segment.bytes mixedSource ⟨1, 17⟩).getLast? ≠ some newline ∧
      mixedSource[0]? ≠ some 0x5C ∧
      ∃ doc last,
        Document.ofEvents? mixedSource
          (Passage.construct .paragraph ⟨1, 17⟩ ⟨1, 17⟩ mixedPassages).events = some doc ∧
        (standard {}).render .unlimited mixedSource doc = (none, last) ∧
        last.writer.sink.content = Utf8.ofString "\\*a<b>\\_<x:y>\nc\n" := by
  have hinside : ∀ passage ∈ [Passage.event ⟨.text "x:y", ⟨10, 13⟩⟩],
      passage.IsText mixedSource :=
    List.forall_mem_singleton.mpr ⟨"x:y", ⟨10, 13⟩, rfl, by decide +kernel⟩
  have htile : Passage.Tile mixedSource mixedPassages 1 17 := by
    refine .cons (.escaped "*" ?_ ?_ ?_) (.cons (.text "a" ?_) (.cons (.inlineHtml "<b>" ?_ ?_)
      (.cons (.escaped "_" ?_ ?_ ?_) (.cons (.autolink "x:y" "" (.inl rfl) ?_ ?_ ?_ ?_ hinside)
      (.cons (.text " " ?_) (.cons (.softBreak ?_) (.cons (.text "c" ?_) (.nil 17))))))))
    all_goals decide +kernel
  have hrange : Segment.isWithin mixedSource ⟨1, 17⟩ := by decide +kernel
  have hlast : (Segment.bytes mixedSource ⟨1, 17⟩).getLast? ≠ some newline := by decide +kernel
  have hbefore : mixedSource[0]? ≠ some 0x5C := by decide +kernel
  obtain ⟨doc, last, hdoc, hrender, hcontent⟩ := @render_paragraph {} mixedSource ⟨1, 17⟩
    ⟨1, 17⟩ mixedPassages htile (by decide) hlast fun _ => hbefore
  refine ⟨htile, hrange, hlast, hbefore, doc, last, hdoc, hrender, hcontent.trans ?_⟩
  decide +kernel

end Renderer

end MarkdownFormat
