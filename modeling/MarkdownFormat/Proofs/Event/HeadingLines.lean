/-
# The content lines of headings

A heading has number signs in front of its content, and maybe behind it, or it has an
underline below one or several content lines. What is found of it are the segments of the
content, without the signs or the underline, the indentation and the markers of block quotes
at the start of lines, and the blanks at their ends.
-/

import MarkdownFormat.Proofs.Event.Spelling

namespace MarkdownFormat.Spelling

variable {source : Bytes}

/-- Content behind some indentation: it stands on one line, and neither starts like the
indentation nor ends with a blank. -/
structure IsContent (isIndent : UInt8 → Bool) (bytes : Bytes) : Prop where
  ne_nil : bytes ≠ []
  oneLine : newline ∉ bytes
  head : ∀ byte ∈ bytes.head?, isIndent byte = false
  last : ∀ byte ∈ bytes.getLast?, isBlankByte byte = false

/-- Number signs that close a heading, with the space in front of them. -/
def IsClosing (bytes : Bytes) : Prop :=
  ∃ gap count, gap ≠ [] ∧ (∀ byte ∈ gap, isSpace byte) ∧ 0 < count ∧
    bytes = gap ++ List.replicate count 0x23

/-- Whether content ends with number signs that would close it: those behind a space, or
nothing but number signs. -/
def EndsClosed (content : Bytes) : Prop :=
  ∃ front count, 0 < count ∧ content = front ++ List.replicate count 0x23 ∧
    ∀ byte ∈ front.getLast?, isSpace byte

/-- A line with content: what stands in front of it, the content and the blanks behind it. -/
structure SpelledLine where
  lead : Bytes
  content : Bytes
  blanks : Bytes

namespace SpelledLine

/-- All of the line but its ending. -/
def bytes (line : SpelledLine) : Bytes :=
  line.lead ++ (line.content ++ line.blanks)

/-- Whether what stands in front of the content is indentation of some kind. -/
structure IsIndented (isIndent : UInt8 → Bool) (line : SpelledLine) : Prop where
  lead : ∀ byte ∈ line.lead, isIndent byte
  content : IsContent isIndent line.content
  blanks : ∀ byte ∈ line.blanks, isBlankByte byte
  oneLine : newline ∉ line.blanks

/-- The segments of the contents of lines that follow one another. -/
def segments (offset : Nat) : List SpelledLine → List Segment
  | [] => []
  | line :: rest =>
      ⟨offset + line.lead.length, offset + line.lead.length + line.content.length⟩ ::
        segments (offset + line.bytes.length + 1) rest

end SpelledLine

/-- The spellings of headings that start at an offset, with the segments of their content. -/
inductive SpellsHeading (offset : Nat) : Bytes → List Segment → Prop
  /-- Number signs in front of the content, and maybe behind it. -/
  | atx {indent level : Nat} {gap content closing blanks : Bytes} (hlevel : 0 < level)
      (hgap : gap ≠ []) (hspaces : ∀ byte ∈ gap, isSpace byte)
      (hcontent : IsContent isSpace content)
      (hclosing : IsClosing closing ∨ closing = [] ∧ ¬ EndsClosed content)
      (hblanks : ∀ byte ∈ blanks, isBlankByte byte) :
      SpellsHeading offset
        (List.replicate indent 0x20 ++ (List.replicate level 0x23 ++
          (gap ++ (content ++ (closing ++ blanks)))))
        [⟨offset + (indent + level + gap.length),
          offset + (indent + level + gap.length) + content.length⟩]
  /-- An underline below the content. -/
  | setext {first : SpelledLine} {later : List SpelledLine} {lead blanks : Bytes} {mark : UInt8}
      {count : Nat} (hfirst : first.IsIndented isSpace)
      (hlater : ∀ line ∈ later, line.IsIndented isQuoteSpace)
      (hlead : ∀ byte ∈ lead, isQuoteSpace byte) (hmark : mark = 0x3D ∨ mark = 0x2D)
      (hcount : 0 < count) (hblanks : ∀ byte ∈ blanks, isBlankByte byte) :
      SpellsHeading offset
        (joinLines ((first :: later).map SpelledLine.bytes)
          (lead ++ (List.replicate count mark ++ blanks)))
        (SpelledLine.segments offset (first :: later))

/-- Bytes of a sort that has no newline hold none. -/
theorem newline_notMem_of_forall {p : UInt8 → Bool} (hnewline : p newline = false) {bytes : Bytes}
    (hbytes : ∀ byte ∈ bytes, p byte) : newline ∉ bytes := by
  intro hmem
  rw [hbytes newline hmem] at hnewline
  cases hnewline

section Blanks

variable {front blanks : Bytes} {offset : Nat}

/-- Blanks at the end are cut, and nothing before them. -/
theorem trimBytesEnd_append (hlast : ∀ byte ∈ front.getLast?, isBlankByte byte = false)
    (hblanks : ∀ byte ∈ blanks, isBlankByte byte) : trimBytesEnd (front ++ blanks) = front := by
  rw [trimBytesEnd, dropTrailing_append_of_forall hblanks, dropTrailing_eq_self_iff.mpr hlast]

/-- Blank lines have no content. -/
theorem contentSegments_of_blank {lines : List Bytes}
    (hblank : ∀ line ∈ lines, ∀ byte ∈ line, isBlankByte byte) :
    contentSegments offset lines = [] := by
  induction lines generalizing offset with
  | nil => rfl
  | cons line lines ih =>
      obtain ⟨hline, hlines⟩ := List.forall_mem_cons.mp hblank
      have htrimmed : trimBytesEnd line = [] := by
        rw [trimBytesEnd, dropTrailing_eq_rdropWhile, List.rdropWhile_eq_nil_iff]
        exact hline
      rw [contentSegments, htrimmed]
      exact ih hlines

variable (hfront : front ≠ []) (hlast : ∀ byte ∈ front.getLast?, isBlankByte byte = false)
  (hblanks : ∀ byte ∈ blanks, isBlankByte byte)

include hfront hlast hblanks

/-- A line is one segment, without the blanks at its end. -/
theorem contentSegments_cons (lines : List Bytes) :
    contentSegments offset ((front ++ blanks) :: lines) =
      ⟨offset, offset + front.length⟩ ::
        contentSegments (offset + (front ++ blanks).length) lines := by
  rw [contentSegments, trimBytesEnd_append hlast hblanks]
  exact if_neg (mt List.length_eq_zero_iff.mp hfront)

variable (hline : newline ∉ front)

include hline

/-- A line in front of others gives its segment. -/
theorem contentSegments_cutAfter_cons (hnone : newline ∉ blanks) (rest : Bytes) :
    contentSegments offset (cutAfter (· == newline) (front ++ (blanks ++ newline :: rest))) =
      ⟨offset, offset + front.length⟩ ::
        contentSegments (offset + (front ++ blanks).length + 1)
          (cutAfter (· == newline) rest) := by
  have hparts : newline ∉ front ++ blanks := by simp [hline, hnone]
  have hending : ∀ byte ∈ blanks ++ [newline], isBlankByte byte :=
    List.forall_mem_append.mpr ⟨hblanks, List.forall_mem_singleton.mpr rfl⟩
  rw [← List.append_assoc,
    cutAfter_append_cons (beq_eq_false_of_notMem hparts) (beq_self_eq_true newline),
    List.append_assoc front, contentSegments_cons hfront hlast hending, ← List.append_assoc front,
    List.length_append, List.length_singleton, Nat.add_assoc]

/-- Behind the last line there are only blanks. -/
theorem contentSegments_cutAfter_last :
    contentSegments offset (cutAfter (· == newline) (front ++ blanks)) =
      [⟨offset, offset + front.length⟩] := by
  by_cases hmem : newline ∈ blanks
  · obtain ⟨ending, rest, rfl, hnone⟩ := List.eq_append_cons_of_mem hmem
    obtain ⟨hending, hrest⟩ := List.forall_mem_append.mp hblanks
    have hlines : ∀ line ∈ cutAfter (· == newline) rest, ∀ byte ∈ line, isBlankByte byte := by
      intro line hcut byte hbyte
      refine (List.forall_mem_cons.mp hrest).2 byte ?_
      rw [← flatten_cutAfter (· == newline) rest]
      exact List.mem_flatten_of_mem hcut hbyte
    rw [contentSegments_cutAfter_cons hfront hlast hending hline hnone,
      contentSegments_of_blank hlines]
  · have hparts : newline ∉ front ++ blanks := by simp [hline, hmem]
    rw [cutAfter_of_forall_not (beq_eq_false_of_notMem hparts),
      if_neg (List.append_ne_nil_of_left_ne_nil hfront _),
      contentSegments_cons hfront hlast hblanks]
    rfl

end Blanks

/-- Spaces are blank. -/
theorem isBlankByte_of_isSpace {byte : UInt8} (hspace : isSpace byte) : isBlankByte byte := by
  simp only [isSpace, Bool.or_eq_true, beq_iff_eq] at hspace
  rcases hspace with rfl | rfl <;> rfl

section Atx

variable {indent level : Nat} {gap content closing : Bytes}

/-- Signs at the end of the content stay if they are not behind a space. -/
theorem dropTrailing_signs_eq_self (hopen : ¬ EndsClosed content)
    (hspace : (dropTrailing (· == 0x23) content).getLast?.all isSpace) :
    dropTrailing (· == 0x23) content = content := by
  obtain ⟨signs, hsplit, hsigns⟩ := exists_dropTrailing_append (· == (0x23 : UInt8)) content
  have hrow : signs = List.replicate signs.length 0x23 :=
    List.eq_replicate_of_mem fun byte hbyte => beq_iff_eq.mp (hsigns byte hbyte)
  by_contra hne
  have hpos : 0 < signs.length := by
    rw [List.length_pos_iff]
    rintro rfl
    exact hne (hsplit.trans (List.append_nil _)).symm
  refine hopen ⟨dropTrailing (· == 0x23) content, signs.length, hpos, ?_,
    (Option.all_eq_true _ _).mp hspace⟩
  rw [← hrow]
  exact hsplit

/-- Signs behind the content go with the space in front of them. -/
theorem dropTrailing_signs_append (hgap : gap ≠ []) (hspaces : ∀ byte ∈ gap, isSpace byte)
    (content : Bytes) (count : Nat) :
    dropTrailing (· == 0x23) (content ++ (gap ++ List.replicate count 0x23)) = content ++ gap ∧
      (content ++ gap).getLast?.all isSpace := by
  have hsigns : ∀ byte ∈ List.replicate count (0x23 : UInt8), byte == 0x23 := by simp
  have hspace : isSpace (gap.getLast hgap) := hspaces _ (List.getLast_mem hgap)
  have hlast : (content ++ gap).getLast? = some (gap.getLast hgap) := by
    rw [List.getLast?_append_of_ne_nil _ hgap, List.getLast?_eq_some_getLast hgap]
  rw [← List.append_assoc, dropTrailing_append_of_forall hsigns, dropTrailing_eq_self_iff, hlast]
  refine ⟨?_, hspace⟩
  rintro _ ⟨⟩
  rw [beq_eq_false_iff_ne]
  intro hsign
  rw [hsign] at hspace
  cases hspace

/-- What a reader keeps of the text behind the number signs at the start of a line: all of it
but closing signs and the blanks in front of them. -/
def atxText (text : Bytes) : Bytes :=
  let unclosed := dropTrailing (· == 0x23) text
  trimBytesEnd (if unclosed.getLast?.all isSpace then unclosed else text)

/-- The segment between the gap behind the number signs and what the reader leaves out. -/
theorem atxContent?_of_gap {line : Segment} {text : Bytes} (hlevel : 0 < level) (hgap : gap ≠ [])
    (hspaces : ∀ byte ∈ gap, isSpace byte) (hhead : ∀ byte ∈ text.head?, isSpace byte = false)
    (hbytes : line.bytes source =
      List.replicate indent 0x20 ++ (List.replicate level 0x23 ++ (gap ++ text))) :
    atxContent? source line =
      if atxText text = [] then none
      else some ⟨line.start + (indent + level + gap.length),
        line.start + (indent + level + gap.length) + (atxText text).length⟩ := by
  have hindent : (line.bytes source).dropWhile (· == 0x20) =
      List.replicate level 0x23 ++ (gap ++ text) := by
    rw [hbytes, List.dropWhile_append_of_pos (by simp), dropWhile_eq_self]
    obtain ⟨more, rfl⟩ := Nat.exists_eq_add_one.mpr hlevel
    rintro _ ⟨⟩
    rfl
  have hsigns : (List.replicate level 0x23 ++ (gap ++ text)).dropWhile (· == 0x23) =
      gap ++ text := by
    rw [List.dropWhile_append_of_pos (by simp), dropWhile_eq_self]
    intro byte hbyte
    rw [List.head?_append_of_ne_nil _ hgap] at hbyte
    have hspace := hspaces byte (List.mem_of_head? hbyte)
    rw [beq_eq_false_iff_ne]
    rintro rfl
    cases hspace
  have hrest : (gap ++ text).dropWhile isSpace = text := by
    rw [List.dropWhile_append_of_pos hspaces, dropWhile_eq_self hhead]
  have hlength : (line.bytes source).length - text.length = indent + level + gap.length := by
    rw [hbytes]
    simp only [List.length_append, List.length_replicate]
    omega
  simp only [atxContent?, hindent, hsigns, hrest, hlength, take_length_sub_eq_dropTrailing]
  rfl

variable (hcontent : IsContent isSpace content)
  (hclosing : IsClosing closing ∨ closing = [] ∧ ¬ EndsClosed content)

include hcontent hclosing

/-- The signs that close a heading are taken away, and no other ones. -/
theorem atxText_unclosed : atxText (content ++ closing) = content := by
  rw [atxText]
  rcases hclosing with ⟨gap, count, hgap, hspaces, hcount, rfl⟩ | ⟨rfl, hopen⟩
  · obtain ⟨hunclosed, hspace⟩ := dropTrailing_signs_append hgap hspaces content count
    rw [hunclosed, if_pos hspace]
    exact trimBytesEnd_append hcontent.last fun byte hbyte =>
      isBlankByte_of_isSpace (hspaces byte hbyte)
  · have hwhole : trimBytesEnd content = content := dropTrailing_eq_self_iff.mpr hcontent.last
    rw [List.append_nil]
    split
    · next hspace => rw [dropTrailing_signs_eq_self hopen hspace, hwhole]
    · exact hwhole

/-- The text of the line, closing signs included, stands on one line and ends without a
blank. -/
theorem closing_oneLine :
    newline ∉ closing ∧ ∀ byte ∈ (content ++ closing).getLast?, isBlankByte byte = false := by
  rcases hclosing with ⟨gap, count, hgap, hspaces, hcount, rfl⟩ | ⟨rfl, -⟩
  · have hline : newline ∉ gap := newline_notMem_of_forall rfl hspaces
    have hsign : newline ≠ 0x23 := by decide
    rw [← List.append_assoc, getLast?_append_replicate _ _ hcount]
    refine ⟨by simp [hline, hsign], ?_⟩
    rintro _ ⟨⟩
    rfl
  · rw [List.append_nil]
    exact ⟨List.not_mem_nil, hcontent.last⟩

variable (hspaces : ∀ byte ∈ gap, isSpace byte)

include hspaces

/-- A line with number signs and the blanks behind it give one segment. -/
theorem contentSegments_atx {blanks : Bytes} {offset : Nat}
    (hblanks : ∀ byte ∈ blanks, isBlankByte byte) :
    let line := List.replicate indent 0x20 ++ (List.replicate level 0x23 ++
      (gap ++ (content ++ closing)))
    contentSegments offset (cutAfter (· == newline) (line ++ blanks)) =
      [⟨offset, offset + line.length⟩] := by
  intro line
  obtain ⟨hclosingLine, hlast⟩ := closing_oneLine hcontent hclosing
  have hnone : newline ∉ line := by
    have hgapLine : newline ∉ gap := newline_notMem_of_forall rfl hspaces
    have hspace : newline ≠ 0x20 := by decide
    have hsign : newline ≠ 0x23 := by decide
    simp [line, hspace, hsign, hgapLine, hcontent.oneLine, hclosingLine]
  have hlastLine : ∀ byte ∈ line.getLast?, isBlankByte byte = false := by
    have htext : content ++ closing ≠ [] := List.append_ne_nil_of_left_ne_nil hcontent.ne_nil _
    simp only [line]
    rw [← List.append_assoc, ← List.append_assoc, List.getLast?_append_of_ne_nil _ htext]
    exact hlast
  have hsome : line ≠ [] := by simp [line, hcontent.ne_nil]
  exact contentSegments_cutAfter_last hsome hlastLine hblanks hnone

/-- The segment of the content between number signs. -/
theorem atxContent?_of_spelled {line : Segment} (hlevel : 0 < level) (hgap : gap ≠ [])
    (hbytes : line.bytes source = List.replicate indent 0x20 ++ (List.replicate level 0x23 ++
      (gap ++ (content ++ closing)))) :
    atxContent? source line = some ⟨line.start + (indent + level + gap.length),
      line.start + (indent + level + gap.length) + content.length⟩ := by
  have hhead : ∀ byte ∈ (content ++ closing).head?, isSpace byte = false := by
    rw [List.head?_append_of_ne_nil _ hcontent.ne_nil]
    exact hcontent.head
  rw [atxContent?_of_gap hlevel hgap hspaces hhead hbytes, atxText_unclosed hcontent hclosing,
    if_neg hcontent.ne_nil]

end Atx

section Setext

variable {lead blanks : Bytes} {mark : UInt8} {count : Nat}

/-- A row of marks is an underline, whatever indents it. -/
theorem isUnderline_replicate (hlead : ∀ byte ∈ lead, isQuoteSpace byte)
    (hmark : mark = 0x3D ∨ mark = 0x2D) (hcount : 0 < count) :
    isUnderline (lead ++ List.replicate count mark) := by
  have hblank : isBlankByte mark = false := by rcases hmark with rfl | rfl <;> rfl
  have hspace : isQuoteSpace mark = false := by rcases hmark with rfl | rfl <;> rfl
  have hrow : ∀ {p : UInt8 → Bool}, p mark = false →
      (List.replicate count mark).dropWhile p = List.replicate count mark := by
    intro p hp
    rw [List.dropWhile_replicate, if_neg (by simp [hp])]
  have hindent : ∀ byte ∈ lead.dropWhile isBlankByte, isQuoteSpace byte :=
    fun byte hbyte => hlead byte ((List.dropWhile_sublist _).subset hbyte)
  have hmarks : (trimBytes (lead ++ List.replicate count mark)).dropWhile isQuoteSpace =
      List.replicate count mark := by
    rw [trimBytes, trimBytesEnd, dropWhile_append_of_eq_self (hrow hblank),
      dropTrailing_append_replicate hblank _ hcount, List.dropWhile_append_of_pos hindent,
      hrow hspace]
  rw [isUnderline, hmarks]
  rcases hmark with rfl | rfl <;> simp [Nat.ne_of_gt hcount]

variable {line : SpelledLine} {offset : Nat} {rest : Bytes}

/-- A line loses its indentation. -/
theorem withoutIndent_of_isIndented (isFirst : Bool)
    (hline : line.IsIndented (if isFirst then isSpace else isQuoteSpace))
    (hdrop : source.drop offset = line.bytes ++ rest) :
    withoutIndent source isFirst ⟨offset, offset + (line.lead ++ line.content).length⟩ =
      ⟨offset + line.lead.length, offset + line.lead.length + line.content.length⟩ := by
  have hbytes : Segment.bytes source ⟨offset, offset + (line.lead ++ line.content).length⟩ =
      line.lead ++ line.content := by
    have hsplit : source.drop offset = (line.lead ++ line.content) ++ (line.blanks ++ rest) := by
      rw [hdrop, SpelledLine.bytes]
      simp only [List.append_assoc]
    exact Segment.bytes_of_drop hsplit
  have hindent : (line.lead ++ line.content).takeWhile (if isFirst then isSpace else isQuoteSpace) =
      line.lead := by
    rw [List.takeWhile_append_of_pos hline.lead, takeWhile_eq_nil hline.content.head,
      List.append_nil]
  rw [withoutIndent, hbytes, hindent, Segment.withStart, List.length_append, Nat.add_assoc]

/-- A content line in front of others gives a segment with its indentation. -/
theorem contentSegments_of_isIndented {isIndent : UInt8 → Bool} (hline : line.IsIndented isIndent)
    (hindent : ∀ byte, isIndent byte → isQuoteSpace byte) (rest : Bytes) :
    contentSegments offset (cutAfter (· == newline) (line.bytes ++ newline :: rest)) =
      ⟨offset, offset + (line.lead ++ line.content).length⟩ ::
        contentSegments (offset + line.bytes.length + 1) (cutAfter (· == newline) rest) := by
  have hlead : newline ∉ line.lead :=
    newline_notMem_of_forall rfl fun byte hbyte => hindent byte (hline.lead byte hbyte)
  have hnone : newline ∉ line.lead ++ line.content := by simp [hlead, hline.content.oneLine]
  have hlast : ∀ byte ∈ (line.lead ++ line.content).getLast?, isBlankByte byte = false := by
    rw [List.getLast?_append_of_ne_nil _ hline.content.ne_nil]
    exact hline.content.last
  have hsplit : line.bytes = (line.lead ++ line.content) ++ line.blanks := by
    rw [SpelledLine.bytes, List.append_assoc]
  rw [hsplit, List.append_assoc (line.lead ++ line.content)]
  exact contentSegments_cutAfter_cons
    (List.append_ne_nil_of_right_ne_nil _ hline.content.ne_nil) hlast hline.blanks hnone
    hline.oneLine rest

/-- Lines are joined one by one. -/
theorem joinLines_cons (line : Bytes) (lines : List Bytes) (tail : Bytes) :
    joinLines (line :: lines) tail = line ++ newline :: joinLines lines tail := by
  simp [joinLines]

/-- Content lines in front of something else: without their indentation, their segments are
those of the contents. -/
theorem exists_contentSegments_joinLines {lines : List SpelledLine}
    (hlines : ∀ line ∈ lines, line.IsIndented isQuoteSpace) {tail : Bytes}
    (hdrop : source.drop offset = joinLines (lines.map SpelledLine.bytes) tail ++ rest) :
    ∃ segments stop,
      contentSegments offset (cutAfter (· == newline)
          (joinLines (lines.map SpelledLine.bytes) tail)) =
        segments ++ contentSegments stop (cutAfter (· == newline) tail) ∧
      segments.map (withoutIndent source false) = SpelledLine.segments offset lines ∧
      source.drop stop = tail ++ rest := by
  induction lines generalizing offset with
  | nil => exact ⟨[], offset, rfl, rfl, hdrop⟩
  | cons line lines ih =>
      obtain ⟨hline, hlines⟩ := List.forall_mem_cons.mp hlines
      rw [List.map_cons, joinLines_cons] at hdrop ⊢
      have hnext : source.drop (offset + line.bytes.length + 1) =
          joinLines (lines.map SpelledLine.bytes) tail ++ rest := by
        rw [Nat.add_assoc, ← List.drop_drop, hdrop]
        simp
      obtain ⟨segments, stop, hsegments, hcontents, hstop⟩ := ih hlines hnext
      rw [List.append_assoc] at hdrop
      refine ⟨⟨offset, offset + (line.lead ++ line.content).length⟩ :: segments, stop, ?_, ?_,
        hstop⟩
      · rw [contentSegments_of_isIndented hline (fun _ h => h), hsegments, List.cons_append]
      · rw [List.map_cons, hcontents, withoutIndent_of_isIndented false hline hdrop]
        rfl

/-- The underline and the blanks behind it give one more segment. -/
theorem contentSegments_underline (hlead : ∀ byte ∈ lead, isQuoteSpace byte)
    (hmark : mark = 0x3D ∨ mark = 0x2D) (hcount : 0 < count)
    (hblanks : ∀ byte ∈ blanks, isBlankByte byte) :
    contentSegments offset (cutAfter (· == newline)
        (lead ++ (List.replicate count mark ++ blanks))) =
      [⟨offset, offset + (lead ++ List.replicate count mark).length⟩] := by
  have hblank : isBlankByte mark = false := by rcases hmark with rfl | rfl <;> rfl
  have hrow : List.replicate count mark ≠ [] := by simpa using Nat.ne_of_gt hcount
  have hlast : ∀ byte ∈ (lead ++ List.replicate count mark).getLast?, isBlankByte byte = false := by
    rw [getLast?_append_replicate lead mark hcount]
    rintro _ ⟨⟩
    exact hblank
  have hnone : newline ∉ lead ++ List.replicate count mark := by
    rw [List.mem_append, not_or]
    refine ⟨newline_notMem_of_forall rfl hlead, fun hmem => ?_⟩
    rw [← List.eq_of_mem_replicate hmem] at hblank
    cases hblank
  rw [← List.append_assoc]
  exact contentSegments_cutAfter_last (List.append_ne_nil_of_right_ne_nil lead hrow) hlast hblanks
    hnone

end Setext

/-- The content lines of a heading are found in all of its spellings. -/
theorem headingLines?_of_spellsHeading {range : Segment} {lines : List Segment}
    (hle : range.start ≤ range.stop) (hstop : range.stop ≤ source.length)
    (hspells : SpellsHeading range.start (range.bytes source) lines) :
    headingLines? source range = some lines := by
  have hslice : slice? source range = some (range.bytes source) := if_pos ⟨hle, hstop⟩
  have hdrop : source.drop range.start =
      range.bytes source ++ (source.drop range.start).drop range.length := by
    rw [Segment.bytes, List.take_append_drop]
  rw [headingLines?, hslice, Option.map_some]
  generalize range.bytes source = bytes at hspells hdrop
  generalize (source.drop range.start).drop range.length = rest at hdrop
  cases hspells with
  | @atx indent level gap content closing blanks hlevel hgap hspaces hcontent hclosing hblanks =>
      have hline : List.replicate indent 0x20 ++ (List.replicate level 0x23 ++
          (gap ++ (content ++ (closing ++ blanks)))) =
          List.replicate indent 0x20 ++ (List.replicate level 0x23 ++
            (gap ++ (content ++ closing))) ++ blanks := by
        simp only [List.append_assoc]
      rw [hline, contentSegments_atx hcontent hclosing hspaces hblanks]
      rw [hline, List.append_assoc] at hdrop
      have hatx := atxContent?_of_spelled hcontent hclosing hspaces hlevel hgap
        (Segment.bytes_of_drop hdrop)
      simp only [List.getLast?_nil, Option.any_none, hatx]
      rfl
  | @setext first later lead blanks mark count hfirst hlater hlead hmark hcount hblanks =>
      rw [List.map_cons, joinLines_cons] at hdrop ⊢
      have hnext : source.drop (range.start + first.bytes.length + 1) =
          joinLines (later.map SpelledLine.bytes)
            (lead ++ (List.replicate count mark ++ blanks)) ++ rest := by
        rw [Nat.add_assoc, ← List.drop_drop, hdrop]
        simp
      obtain ⟨segments, stop, hsegments, hcontents, hdropUnderline⟩ :=
        exists_contentSegments_joinLines hlater hnext
      have hunderline : isUnderline (Segment.bytes source
          ⟨stop, stop + (lead ++ List.replicate count mark).length⟩) := by
        rw [← List.append_assoc, List.append_assoc] at hdropUnderline
        rw [Segment.bytes_of_drop hdropUnderline]
        exact isUnderline_replicate hlead hmark hcount
      rw [List.append_assoc] at hdrop
      have hindent : ∀ byte, isSpace byte → isQuoteSpace byte := fun byte hspace => by
        rw [isQuoteSpace, hspace]
        rfl
      rw [contentSegments_of_isIndented hfirst hindent, hsegments,
        contentSegments_underline hlead hmark hcount hblanks]
      simp only [List.getLast?_concat, Option.any_some, hunderline, if_true, List.dropLast_concat,
        hcontents]
      rw [withoutIndent_of_isIndented true hfirst hdrop]
      rfl

/-- An underlined heading in a quote and one between number signs. -/
def spelledHeadings : Bytes :=
  Utf8.ofString "> a\n> b \n> ---\n## c # ##\n"

/-- The markers of the quote and the signs behind the content are left out. -/
theorem headingLines?_of_spellsHeading_mixed :
    SpellsHeading 2 (Segment.bytes spelledHeadings ⟨2, 15⟩) [⟨2, 3⟩, ⟨6, 7⟩] ∧
      SpellsHeading 15 (Segment.bytes spelledHeadings ⟨15, 25⟩) [⟨18, 21⟩] ∧
      headingLines? spelledHeadings ⟨2, 15⟩ = some [⟨2, 3⟩, ⟨6, 7⟩] ∧
      headingLines? spelledHeadings ⟨15, 25⟩ = some [⟨18, 21⟩] := by
  have hsetext : SpellsHeading 2 (Segment.bytes spelledHeadings ⟨2, 15⟩) [⟨2, 3⟩, ⟨6, 7⟩] := by
    let first : SpelledLine := ⟨[], [0x61], []⟩
    let second : SpelledLine := ⟨[0x3E, 0x20], [0x62], [0x20]⟩
    have hbytes : Segment.bytes spelledHeadings ⟨2, 15⟩ =
        joinLines ([first, second].map SpelledLine.bytes)
          ([0x3E, 0x20] ++ (List.replicate 3 0x2D ++ [newline])) := by
      decide +kernel
    have hfirst : first.IsIndented isSpace :=
      ⟨List.forall_mem_nil _, ⟨List.cons_ne_nil _ _, by decide, by rintro _ ⟨⟩; rfl,
        by rintro _ ⟨⟩; rfl⟩, List.forall_mem_nil _, List.not_mem_nil⟩
    have hmarker : ∀ byte ∈ [0x3E, 0x20], isQuoteSpace byte := List.all_eq_true.mp rfl
    have hsecond : second.IsIndented isQuoteSpace :=
      ⟨hmarker, ⟨List.cons_ne_nil _ _, by decide, by rintro _ ⟨⟩; rfl, by rintro _ ⟨⟩; rfl⟩,
        List.forall_mem_singleton.mpr rfl, by decide⟩
    rw [hbytes]
    exact .setext hfirst (List.forall_mem_singleton.mpr hsecond) hmarker (.inr rfl)
      (Nat.succ_pos 2) (List.forall_mem_singleton.mpr rfl)
  have hatx : SpellsHeading 15 (Segment.bytes spelledHeadings ⟨15, 25⟩) [⟨18, 21⟩] := by
    have hbytes : Segment.bytes spelledHeadings ⟨15, 25⟩ =
        List.replicate 0 0x20 ++ (List.replicate 2 0x23 ++ ([0x20] ++
          ([0x63, 0x20, 0x23] ++ ([0x20, 0x23, 0x23] ++ [newline])))) := by
      decide +kernel
    have hcontent : IsContent isSpace [0x63, 0x20, 0x23] :=
      ⟨List.cons_ne_nil _ _, by decide, by rintro _ ⟨⟩; rfl, by rintro _ ⟨⟩; rfl⟩
    have hclosing : IsClosing [0x20, 0x23, 0x23] :=
      ⟨[0x20], 2, List.cons_ne_nil _ _, List.forall_mem_singleton.mpr rfl, Nat.two_pos, rfl⟩
    rw [hbytes]
    exact .atx Nat.two_pos (List.cons_ne_nil _ _) (List.forall_mem_singleton.mpr rfl) hcontent
      (.inl hclosing) (List.forall_mem_singleton.mpr rfl)
  exact ⟨hsetext, hatx,
    headingLines?_of_spellsHeading (by decide) (by decide +kernel) hsetext,
    headingLines?_of_spellsHeading (by decide) (by decide +kernel) hatx⟩

end MarkdownFormat.Spelling
