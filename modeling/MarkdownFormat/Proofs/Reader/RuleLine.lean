/-
# Lines that are thematic breaks

The reader asks whether a line is a thematic break before it asks whether the line opens
an item. A line of three or more equal marks is a break, then, even if the first of them
could be a bullet, and a source that is one such line has the break for its only event.
Only if the bullet is another character is the rest of the line a break in an item.
-/

import MarkdownFormat.Proofs.Render.InlinePrinting
import MarkdownFormat.Proofs.Text.Boundary
import MarkdownFormat.Reader.Markdown

namespace MarkdownFormat

namespace Chars

/-- Without carriage returns, placing characters changes none of them. -/
theorem text_place {text : List Char} (hreturn : '\r' ∉ text) (offset : Nat) :
    (place offset (text.map .char)).text = text := by
  induction text generalizing offset with
  | nil => rfl
  | cons c rest ih =>
      obtain ⟨hc, hrest⟩ := not_or.mp fun h => hreturn (List.mem_cons.mpr h)
      rw [List.map_cons, place]
      · exact congrArg (c :: ·) (ih hrest _)
      · intro _ _ hsame
        exact hc hsame.symm

/-- Characters that are encoded and read again are the same. -/
theorem text_ofBytes {text : List Char} (hreturn : '\r' ∉ text) :
    (ofBytes (Utf8.encode text)).text = text := by
  rw [ofBytes, Utf8.pieces_encode, text_place hreturn]

/-- Text with a line ending at its end only is one line. -/
theorem lines_of_text {line : Chars} {front : List Char} (htext : line.text = front ++ ['\n'])
    (hplain : ∀ c ∈ front, isLineEnd c = false) : line.lines = [line] := by
  obtain ⟨before, ending, rfl, hbefore, hending⟩ := List.map_eq_append_iff.mp htext
  obtain ⟨last, rfl, hlast⟩ := List.map_eq_singleton_iff.mp hending
  refine cutAfter_append_cons (fun c hc => ?_) ?_ []
  · exact hplain c.char (hbefore ▸ List.mem_map_of_mem hc)
  · rw [hlast]
    rfl

/-- A source that is spelled as one line has its characters and is one line. -/
theorem ofBytes_line {front : List Char} (hplain : ∀ c ∈ front, isLineEnd c = false) :
    (ofBytes (Utf8.encode (front ++ ['\n']))).text = front ++ ['\n'] ∧
      (ofBytes (Utf8.encode (front ++ ['\n']))).lines =
        [ofBytes (Utf8.encode (front ++ ['\n']))] := by
  have hreturn : '\r' ∉ front ++ ['\n'] := by
    intro hmem
    rcases List.mem_append.mp hmem with h | h
    · exact absurd (hplain '\r' h) (by decide)
    · exact absurd h (by decide)
  have htext := text_ofBytes hreturn
  exact ⟨htext, lines_of_text htext hplain⟩

/-- The first character of a source stands at its start. -/
theorem startOr_ofBytes (source : Bytes) : (ofBytes source).startOr 0 = 0 := by
  rw [ofBytes]
  generalize Utf8.pieces source = pieces
  unfold place
  split <;> rfl

end Chars

namespace Cursor

/-- Only spaces and tabs are skipped. -/
theorem skipFrom_eq (column count : Nat) (chars : Chars) :
    ∃ front, chars = front ++ (skipFrom column count chars).rest ∧
      ∀ c ∈ front, isSpaceChar c.char := by
  induction chars generalizing column count with
  | nil => exact ⟨[], rfl, nofun⟩
  | cons c rest ih =>
      rw [skipFrom]
      split
      case isTrue => exact ⟨[], rfl, nofun⟩
      case isFalse hmoves =>
        have hspace : isSpaceChar c.char := by
          simp only [Bool.or_eq_true, not_or, Bool.not_eq_true, Bool.not_eq_false'] at hmoves
          exact hmoves.2
        dsimp only
        split
        · obtain ⟨front, hfront, hspaces⟩ :=
            ih (column + columnsOf column c.char) (count - columnsOf column c.char)
          exact ⟨c :: front, congrArg (c :: ·) hfront, List.forall_mem_cons.mpr ⟨hspace, hspaces⟩⟩
        · exact ⟨[c], rfl, List.forall_mem_singleton.mpr hspace⟩

/-- What a cursor moves over are spaces and tabs. -/
theorem rest_eq_skip (cursor : Cursor) (count : Nat) :
    ∃ front, cursor.rest = front ++ (cursor.skip count).rest ∧ ∀ c ∈ front, isSpaceChar c.char := by
  rw [skip]
  split
  · exact ⟨[], rfl, nofun⟩
  · exact skipFrom_eq _ _ _

/-- There is no indentation before a character that is no gap. -/
theorem indent_of_not_isGap {first : SourceChar} (hfirst : ¬ isGap first.char) (rest : Chars)
    (column : Nat) : indent ⟨first :: rest, column, 0⟩ = 0 := by
  have hspace : isSpaceChar first.char = false := by
    simp only [isGap, Bool.or_eq_true, not_or, Bool.not_eq_true] at hfirst
    exact hfirst.1
  simp [indent, indentFrom, hspace]

/-- Nothing is skipped before another character. -/
theorem skipAll_of_not_isGap {first : SourceChar} (hfirst : ¬ isGap first.char) (rest : Chars)
    (column : Nat) : skipAll ⟨first :: rest, column, 0⟩ = ⟨first :: rest, column, 0⟩ := by
  rw [skipAll, indent_of_not_isGap hfirst]
  rfl

end Cursor

namespace Opening

variable {chars : Chars}

/-- The marks of a thematic break are neither line ends nor gaps. -/
theorem plain_of_mem_marks : ∀ mark ∈ ['-', '*', '_'],
    isLineEnd mark = false ∧ ¬ isGap mark := by
  simp only [List.forall_mem_cons, List.not_mem_nil, false_implies, implies_true, and_true]
  decide

/-- A thematic break has one of the marks at least three times and nothing else but gaps. -/
theorem isRule_iff : isRule chars ↔ ∃ mark ∈ ['-', '*', '_'],
    (∀ c ∈ chars.text, c = mark ∨ isGap c) ∧ 3 ≤ chars.text.count mark := by
  have hmarks : Chars.text (chars.filter fun c => !isGap c.char) =
      chars.text.filter (!isGap ·) := by
    rw [Chars.text, Chars.text, List.filter_map]
    rfl
  have hall (mark : Char) : (chars.text.filter (!isGap ·)).all (· = mark) ↔
      ∀ c ∈ chars.text, c = mark ∨ isGap c := by
    simp only [List.all_filter, List.all_eq_true, Bool.or_eq_true, Bool.not_not, decide_eq_true_eq]
    exact forall₂_congr fun c _ => or_comm
  have hlength {mark : Char} (hmark : mark ∈ ['-', '*', '_'])
      (hchars : ∀ c ∈ chars.text, c = mark ∨ isGap c) :
      (chars.text.filter (!isGap ·)).length = chars.text.count mark := by
    rw [List.count, List.countP_eq_length_filter]
    congr 1
    apply List.filter_congr
    intro c hc
    have hgap := (plain_of_mem_marks mark hmark).2
    rcases hchars c hc with rfl | h
    · simp [hgap]
    · have hne : c ≠ mark := fun hsame => hgap (hsame ▸ h)
      simp [h, hne]
  have hmarked : isRule chars ↔ ∃ mark ∈ ['-', '*', '_'],
      3 ≤ (chars.text.filter (!isGap ·)).length ∧
        (chars.text.filter (!isGap ·)).all (· = mark) := by
    rw [isRule, hmarks]
    simp [and_or_left, or_assoc]
  rw [hmarked]
  refine exists_congr fun mark => and_congr_right fun hmark => ?_
  rw [hall, and_comm]
  exact and_congr_right fun hchars => by rw [hlength hmark hchars]

/-- Marks and spaces before a newline are a thematic break if there are three marks. -/
theorem isRule_of_marks {mark : Char} (hmark : mark ∈ ['-', '*', '_']) {front : List Char}
    (htext : chars.text = front ++ ['\n']) (hfront : ∀ c ∈ front, c = mark ∨ c = ' ')
    (hcount : 3 ≤ front.count mark) : isRule chars := by
  refine isRule_iff.mpr ⟨mark, hmark, ?_, ?_⟩
  · rw [htext]
    refine List.forall_mem_append.mpr ⟨fun c hc => (hfront c hc).imp_right ?_, ?_⟩
    · rintro rfl
      decide
    · exact List.forall_mem_singleton.mpr (.inr (by decide))
  · rw [htext, List.count_append]
    exact Nat.le_add_right_of_le hcount

/-- Spaces in front make no difference to a thematic break. -/
theorem isRule_skip (cursor : Cursor) (count : Nat) :
    isRule (cursor.skip count).rest = isRule cursor.rest := by
  obtain ⟨front, hrest, hspaces⟩ := cursor.rest_eq_skip count
  have hnone : (front.filter fun c => !isGap c.char) = [] := by
    rw [List.filter_eq_nil_iff]
    intro c hc
    simp [isGap, hspaces c hc]
  rw [hrest, isRule, isRule, List.filter_append, hnone, List.nil_append]

/-- A line with a character that is no gap is not blank. -/
theorem not_isBlank_of_mem {c : Char} (hc : c ∈ chars.text) (hgap : ¬ isGap c) :
    Chars.isBlank chars = false := by
  obtain ⟨found, hfound, rfl⟩ := List.mem_map.mp hc
  rw [Chars.isBlank, List.all_eq_false]
  exact ⟨found, hfound, hgap⟩

/-- So a thematic break is not blank. -/
theorem not_isBlank_of_isRule (hrule : isRule chars) : Chars.isBlank chars = false := by
  obtain ⟨mark, hmark, -, hcount⟩ := isRule_iff.mp hrule
  have hmem : mark ∈ chars.text := List.count_pos_iff.mp (Nat.lt_of_lt_of_le (by decide) hcount)
  exact not_isBlank_of_mem hmem (plain_of_mem_marks mark hmark).2

/-- Two characters make no thematic break together. -/
theorem not_isRule_of_mem {c d : Char} (hc : c ∈ chars.text) (hd : d ∈ chars.text)
    (hgaps : ¬ isGap c ∧ ¬ isGap d) (hne : c ≠ d) : isRule chars = false := by
  rw [← Bool.not_eq_true, isRule_iff]
  rintro ⟨mark, -, hchars, -⟩
  have hc := (hchars c hc).resolve_right hgaps.1
  have hd := (hchars d hd).resolve_right hgaps.2
  exact hne (hc.trans hd.symm)

/-- Whether some text starts with no character that a heading, a code fence, HTML or a block
quote starts with. -/
def StartsPlainly (chars : Chars) : Prop :=
  ∀ c ∈ ['#', '~', '\x60', '<', '>'], Chars.peek chars ≠ some c

/-- It starts none of the other blocks. -/
theorem startsPlainly_of_isRule (hrule : isRule chars) : StartsPlainly chars := by
  intro c hc hpeek
  obtain ⟨mark, hmark, hchars, -⟩ := isRule_iff.mp hrule
  obtain ⟨first, hfirst, rfl⟩ := Option.map_eq_some_iff.mp hpeek
  have hno : ∀ c ∈ ['#', '~', '\x60', '<', '>'], c ∉ ['-', '*', '_'] ∧ ¬ isGap c := by
    simp only [List.forall_mem_cons, List.not_mem_nil, false_implies, implies_true, and_true]
    decide
  rcases hchars first.char (List.mem_map_of_mem (List.mem_of_head? hfirst)) with h | h
  · exact (hno _ hc).1 (h ▸ hmark)
  · exact (hno _ hc).2 h

/-- Such a line is no heading. -/
theorem heading?_eq_none (hplain : StartsPlainly chars) : heading? chars = none := by
  have hlevel : runLength '#' chars = 0 := by
    cases chars with
    | nil => rfl
    | cons first rest =>
        have hfirst : first.char ≠ '#' := fun h => hplain '#' (by decide) (congrArg some h)
        simp [runLength, hfirst]
  rw [heading?, hlevel]
  rfl

/-- Nor is it a fence. -/
theorem fence?_eq_none (hplain : StartsPlainly chars) : fence? chars = none := by
  cases chars with
  | nil => rfl
  | cons first rest =>
      have htilde : first.char ≠ '~' := fun h => hplain '~' (by decide) (congrArg some h)
      have hbacktick : first.char ≠ '\x60' := fun h => hplain '\x60' (by decide) (congrArg some h)
      simp [fence?, htilde, hbacktick]

/-- Nor does it start HTML. -/
theorem ending?_eq_none (hplain : StartsPlainly chars) (belowParagraph : Bool) :
    Html.ending? belowParagraph chars = none := by
  rw [Html.ending?]
  rintro start stop rest rfl
  exact hplain '<' (by decide) rfl

/-- Nor is it quoted. -/
theorem afterQuoteMarker?_eq_none {cursor : Cursor} (hplain : StartsPlainly cursor.skipAll.rest) :
    afterQuoteMarker? cursor = none := by
  have hpeek : cursor.skipAll.peek ≠ some '>' := hplain '>' (by decide)
  simp [afterQuoteMarker?, hpeek]

end Opening

namespace BlockReader

variable (reader : BlockReader) (kept : Nat) (cursor : Cursor)

/-- Without a start of another leaf and without a paragraph to underline, a line opens a
thematic break or no leaf. -/
theorem openLeaf?_of_startsPlainly {belowParagraph : Bool}
    (hplain : Opening.StartsPlainly cursor.skipAll.rest)
    (hunderline : belowParagraph = false ∨ Opening.underline? cursor.skipAll.rest = none) :
    reader.openLeaf? kept belowParagraph cursor =
      if Opening.isRule cursor.skipAll.rest then
        some (((reader.closeTo kept).closeList reader.offset).addLine
          (cursor.skipAll.rest.startOr reader.offset) (cursor.skipAll.rest.stopOr reader.offset)
          .rule)
      else none := by
  have hlevel : (if belowParagraph then Opening.underline? cursor.skipAll.rest else none) =
      none := by
    rcases hunderline with h | h <;> simp [h]
  simp only [openLeaf?, Opening.heading?_eq_none hplain, Opening.fence?_eq_none hplain,
    Opening.ending?_eq_none hplain, hlevel, Option.bind_none]

/-- The rest of a line is read as a thematic break if it is one and underlines no paragraph:
nothing is opened for it, even if it starts with a bullet. -/
theorem openBlocks_of_isRule (fuel : Nat) (hindent : cursor.indent ≤ 3)
    (hrule : Opening.isRule cursor.rest)
    (hunderline : reader.inParagraph = false ∨ Opening.underline? cursor.skipAll.rest = none) :
    openBlocks (fuel + 1) reader kept cursor =
      ((reader.closeTo kept).closeList reader.offset).addLine
        (cursor.skipAll.rest.startOr reader.offset) (cursor.skipAll.rest.stopOr reader.offset)
        .rule := by
  have hinner : Opening.isRule cursor.skipAll.rest := by
    rwa [Cursor.skipAll, Opening.isRule_skip]
  have hplain := Opening.startsPlainly_of_isRule hinner
  have hblank : cursor.isBlank = false := Opening.not_isBlank_of_isRule hrule
  have hunderline : (reader.inParagraph && kept = reader.frames.length) = false ∨
      Opening.underline? cursor.skipAll.rest = none :=
    hunderline.imp_left fun h => by rw [h, Bool.false_and]
  rw [openBlocks]
  simp only [hblank, Nat.not_le.mpr (Nat.lt_succ_of_le hindent),
    Opening.afterQuoteMarker?_eq_none hplain, reader.openLeaf?_of_startsPlainly kept cursor
    hplain hunderline, hinner, Bool.false_eq_true, if_false, if_true]

/-- The rest of a line that opens no leaf is read as an item if it has a marker and content
behind it, which is read next. -/
theorem openBlocks_of_item (fuel : Nat) {opening : Opening.ItemOpening}
    (hindent : cursor.indent ≤ 3) (hparagraph : reader.inParagraph = false)
    (hplain : Opening.StartsPlainly cursor.skipAll.rest)
    (hrule : Opening.isRule cursor.rest = false) (hblank : cursor.isBlank = false)
    (hitem : Opening.item? cursor = some opening) (hcontent : opening.content.isBlank = false) :
    let start := cursor.rest.startOr reader.offset
    let opened := ((reader.closeTo kept).openList opening.marker start).openFrame
      (.item opening.indent) start
    openBlocks (fuel + 1) reader kept cursor =
      openBlocks fuel opened opened.frames.length opening.content := by
  intro start opened
  have hinner : Opening.isRule cursor.skipAll.rest = false := by
    rwa [Cursor.skipAll, Opening.isRule_skip]
  have hopens : canOpenItem false opening := rfl
  rw [openBlocks]
  simp only [hblank, Nat.not_le.mpr (Nat.lt_succ_of_le hindent), hparagraph, Bool.false_and,
    Opening.afterQuoteMarker?_eq_none hplain,
    reader.openLeaf?_of_startsPlainly kept cursor hplain (.inl rfl), hinner, hitem, hopens, hcontent,
    Option.filter_some, Bool.false_eq_true, if_false, if_true]
  rfl

end BlockReader

/-- A source of one line opens its blocks and closes them. -/
theorem BlockReader.readLines_singleton (line : Chars) :
    readLines [line] = closeTo { openBlocks (line.length + 1) {} 1 (Cursor.ofLine line) with
      line := 2, offset := line.stopOr 0 } 1 :=
  rfl

namespace Opening

/-- Bullets are neither line ends nor gaps, and start nothing else. -/
theorem plain_of_mem_bullets : ∀ bullet ∈ ['-', '+', '*'],
    (bullet.toNat < 0x80 ∧ isLineEnd bullet = false) ∧ ¬ isGap bullet ∧
      bullet ∉ ['#', '~', '\x60', '<', '>'] := by
  simp only [List.forall_mem_cons, List.not_mem_nil, false_implies, implies_true, and_true]
  decide

/-- A bullet with one space behind it opens an item that goes on two columns further in. -/
theorem item?_of_bullet {bullet space first : SourceChar} {rest : Chars}
    (hbullet : bullet.char ∈ ['-', '+', '*']) (hspace : space.char = ' ')
    (hfirst : ¬ isGap first.char) :
    item? (Cursor.ofLine (bullet :: space :: first :: rest)) =
      some ⟨⟨bullet.char, none⟩, 2, ⟨first :: rest, 2, 0⟩⟩ := by
  obtain ⟨-, hgap, -⟩ := plain_of_mem_bullets _ hbullet
  have houter := Cursor.indent_of_not_isGap hgap (space :: first :: rest) 0
  have hinner := Cursor.skipAll_of_not_isGap hgap (space :: first :: rest) 0
  have hmarker : listMarker? (bullet :: space :: first :: rest) =
      some (⟨bullet.char, none⟩, 1) := by
    simp only [List.mem_cons, List.not_mem_nil, or_false] at hbullet
    rcases hbullet with h | h | h <;>
      simp [listMarker?, h, Chars.peek, hspace, isGap, isSpaceChar, Char.isDigit]
  have hafter : (⟨space :: first :: rest, 1, 0⟩ : Cursor).indent = 1 := by
    have hmore := Cursor.indent_of_not_isGap hfirst rest 2
    rw [Cursor.indent, Nat.zero_add] at hmore
    rw [Cursor.indent, Cursor.indentFrom, hspace]
    exact congrArg (fun more => 0 + (1 + more)) hmore
  have hblank : (⟨space :: first :: rest, 1, 0⟩ : Cursor).isBlank = false :=
    not_isBlank_of_mem (c := first.char) (by simp [Chars.text]) hfirst
  have hskip : (⟨space :: first :: rest, 1, 0⟩ : Cursor).skip 1 = ⟨first :: rest, 2, 0⟩ := by
    simp [Cursor.skip, Cursor.skipFrom, hspace, isSpaceChar, columnsOf]
  simp only [item?, Cursor.ofLine, houter, hinner, hmarker, Cursor.advance, List.drop_one,
    List.tail_cons, Nat.zero_add, hafter, hblank]
  exact congrArg (fun content => some (ItemOpening.mk ⟨bullet.char, none⟩ 2 content)) hskip

end Opening

/-- A line with a bullet and some equal marks behind it. -/
def bulletRule (bullet mark : Char) (count : Nat) : List Char :=
  bullet :: ' ' :: (List.replicate count mark ++ ['\n'])

namespace Markdown

/-- Whether a source is one line that is a thematic break. -/
def isRuleLine (source : Bytes) : Bool :=
  let line := Chars.ofBytes source
  line.lines = [line] && (Cursor.ofLine line).indent ≤ 3 && Opening.isRule line

/-- A line that is a thematic break has no other event. -/
theorem events_of_isRuleLine {source : Bytes} (hline : isRuleLine source) (strikethrough : Bool) :
    ∃ range, events source strikethrough = [⟨.rule, range⟩] := by
  simp only [isRuleLine, Bool.and_eq_true, decide_eq_true_eq] at hline
  obtain ⟨⟨hlines, hindent⟩, hrule⟩ := hline
  rw [events, hlines, BlockReader.readLines_singleton,
    BlockReader.openBlocks_of_isRule {} 1 _ _ hindent hrule (.inl rfl)]
  exact ⟨_, rfl⟩

/-- A bullet with a thematic break behind it that has other characters is read as an item
that holds the break. -/
theorem events_of_bullet {source : Bytes} {bullet space first : SourceChar} {rest : Chars}
    (hsource : Chars.ofBytes source = bullet :: space :: first :: rest)
    (hlines : (Chars.ofBytes source).lines = [Chars.ofBytes source])
    (hbullet : bullet.char ∈ ['-', '+', '*']) (hspace : space.char = ' ')
    (hfirst : ¬ isGap first.char) (hne : first.char ≠ bullet.char)
    (hrule : Opening.isRule (first :: rest)) (strikethrough : Bool) :
    ∃ list item rule : Segment, list.start = 0 ∧ events source strikethrough =
      [⟨.opened (.list none), list⟩, ⟨.opened .item, item⟩, ⟨.rule, rule⟩,
        ⟨.closed .other, item⟩, ⟨.closed .other, list⟩] := by
  obtain ⟨-, hgap, hother⟩ := Opening.plain_of_mem_bullets _ hbullet
  have hindent := Cursor.indent_of_not_isGap hgap (space :: first :: rest) 0
  have hplain : Opening.StartsPlainly (bullet :: space :: first :: rest) :=
    fun c hc hpeek => hother (Option.some.inj hpeek ▸ hc)
  have hmixed : Opening.isRule (bullet :: space :: first :: rest) = false :=
    Opening.not_isRule_of_mem (c := bullet.char) (d := first.char) (by simp [Chars.text])
      (by simp [Chars.text]) ⟨hgap, hfirst⟩ hne.symm
  have hblank : Chars.isBlank (bullet :: space :: first :: rest) = false :=
    Opening.not_isBlank_of_mem (c := bullet.char) (by simp [Chars.text]) hgap
  have hread := BlockReader.openBlocks_of_item {} 1
    (Cursor.ofLine (bullet :: space :: first :: rest)) (rest.length + 3)
    (hindent ▸ Nat.zero_le 3) rfl
    (by rw [Cursor.ofLine, Cursor.skipAll_of_not_isGap hgap]; exact hplain) hmixed hblank
    (Opening.item?_of_bullet hbullet hspace hfirst) (Opening.not_isBlank_of_isRule hrule)
  have hinner : (⟨first :: rest, 2, 0⟩ : Cursor).indent ≤ 3 := by
    rw [Cursor.indent_of_not_isGap hfirst]
    exact Nat.zero_le 3
  have hstart : bullet.start = 0 := by
    rw [← Chars.startOr_ofBytes source, hsource]
    rfl
  rw [events, hlines, BlockReader.readLines_singleton, hsource]
  show ∃ list item rule, _ ∧ blocksEvents _ _ (((BlockReader.closeTo {
    BlockReader.openBlocks (rest.length + 3 + 1) {} 1
      (Cursor.ofLine (bullet :: space :: first :: rest)) with line := _, offset := _ }
    1).frames.head?.map _).getD _) = _
  rw [hread, BlockReader.openBlocks_of_isRule _ _ _ _ hinner hrule (.inl rfl)]
  exact ⟨_, _, _, hstart, rfl⟩

/-- A mark and more marks and spaces, with three marks in all, are a line that is a thematic
break. -/
theorem isRuleLine_of_marks {mark : Char} (hmark : mark ∈ ['-', '*', '_']) {rest : List Char}
    (hrest : ∀ c ∈ rest, c = mark ∨ c = ' ') (hcount : 2 ≤ rest.count mark) :
    isRuleLine (Utf8.encode (mark :: rest ++ ['\n'])) := by
  obtain ⟨hmarkPlain, hgap⟩ := Opening.plain_of_mem_marks mark hmark
  have hmarks : ∀ c ∈ mark :: rest, c = mark ∨ c = ' ' :=
    List.forall_mem_cons.mpr ⟨.inl rfl, hrest⟩
  have hplain : ∀ c ∈ mark :: rest, isLineEnd c = false := by
    intro c hc
    rcases hmarks c hc with rfl | rfl
    · exact hmarkPlain
    · decide
  obtain ⟨htext, hlines⟩ := Chars.ofBytes_line hplain
  simp only [isRuleLine, Bool.and_eq_true, decide_eq_true_eq]
  refine ⟨⟨hlines, ?_⟩, Opening.isRule_of_marks hmark htext hmarks ?_⟩
  · obtain ⟨first, others, hline, rfl, -⟩ := List.map_eq_cons_iff.mp htext
    rw [hline, Cursor.ofLine, Cursor.indent_of_not_isGap hgap]
    exact Nat.zero_le 3
  · rw [List.count_cons_self]
    omega

/-- Behind another bullet, a thematic break is one in an item. -/
theorem events_bulletRule {bullet mark : Char} (hbullet : bullet ∈ ['-', '+', '*'])
    (hmark : mark ∈ ['-', '*', '_']) (hne : mark ≠ bullet) {count : Nat} (hcount : 3 ≤ count)
    (strikethrough : Bool) :
    ∃ list item rule : Segment, list.start = 0 ∧
      events (Utf8.encode (bulletRule bullet mark count)) strikethrough =
        [⟨.opened (.list none), list⟩, ⟨.opened .item, item⟩, ⟨.rule, rule⟩,
          ⟨.closed .other, item⟩, ⟨.closed .other, list⟩] := by
  obtain ⟨hmarkPlain, hmarkGap⟩ := Opening.plain_of_mem_marks mark hmark
  have hplain : ∀ c ∈ bullet :: ' ' :: List.replicate count mark, isLineEnd c = false := by
    rintro c (_ | ⟨_, _ | ⟨_, hc⟩⟩)
    · exact (Opening.plain_of_mem_bullets _ hbullet).1.2
    · decide
    · exact List.eq_of_mem_replicate hc ▸ hmarkPlain
  obtain ⟨htext, hlines⟩ := Chars.ofBytes_line hplain
  obtain ⟨first, others, hsource, rfl, hothers⟩ := List.map_eq_cons_iff.mp htext
  obtain ⟨space, behind, rfl, hspace, hbehind⟩ := List.map_eq_cons_iff.mp hothers
  have hrule : Opening.isRule behind :=
    Opening.isRule_of_marks hmark hbehind (fun c hc => .inl (List.eq_of_mem_replicate hc))
      (by rwa [List.count_replicate_self])
  obtain ⟨count, rfl⟩ := Nat.exists_eq_add_one.mpr (Nat.lt_of_lt_of_le (by decide) hcount)
  obtain ⟨start, rest, rfl, rfl, -⟩ := List.map_eq_cons_iff.mp hbehind
  exact events_of_bullet hsource hlines hbullet hspace hmarkGap hne hrule strikethrough

end Markdown

end MarkdownFormat
