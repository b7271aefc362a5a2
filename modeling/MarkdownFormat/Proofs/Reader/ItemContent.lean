/-
# The content of items

The marker of an item and the space behind it say how far in the item's content stands. A
later line belongs to the item if it is indented as far, and what becomes of its text depends
on how much further in it is: up to three columns leave a paragraph a paragraph, and four
make it indented code.
-/

import MarkdownFormat.Proofs.Reader.BlockStart

namespace MarkdownFormat

namespace Cursor

variable {spaces rest : Chars}

/-- Spaces are skipped one column each. -/
theorem skipFrom_spaces (hspaces : ∀ c ∈ spaces, c.char = ' ') {count : Nat}
    (hcount : count ≤ spaces.length) (column : Nat) :
    skipFrom column count (spaces ++ rest) = ⟨spaces.drop count ++ rest, column + count, 0⟩ := by
  induction spaces generalizing count column with
  | nil =>
      obtain rfl := Nat.le_zero.mp hcount
      rw [List.nil_append, List.drop_nil, List.nil_append]
      cases rest <;> rfl
  | cons c spaces ih =>
      obtain ⟨hc, hothers⟩ := List.forall_mem_cons.mp hspaces
      cases count with
      | zero => rfl
      | succ count =>
          have hone : columnsOf column c.char = 1 := by
            rw [hc]
            rfl
          have hmoves : (decide (count + 1 = 0) || !isSpaceChar c.char) = false := by
            rw [hc]
            rfl
          rw [List.cons_append, skipFrom, hmoves, hone]
          simp only [Bool.false_eq_true, if_false, if_pos (Nat.le_add_left 1 count),
            Nat.add_sub_cancel, List.drop_succ_cons]
          rw [ih hothers (Nat.le_of_succ_le_succ hcount), Nat.add_assoc, Nat.add_comm 1]

/-- Moving over spaces moves over as many columns. -/
theorem skip_spaces (hspaces : ∀ c ∈ spaces, c.char = ' ') {count : Nat}
    (hcount : count ≤ spaces.length) (column : Nat) :
    skip count ⟨spaces ++ rest, column, 0⟩ = ⟨spaces.drop count ++ rest, column + count, 0⟩ := by
  rw [skip]
  split
  · next hnone =>
      obtain rfl := Nat.le_zero.mp hnone
      rfl
  · exact skipFrom_spaces hspaces hcount column

/-- The indent of a line is the number of its spaces. -/
theorem indent_spaces (hspaces : ∀ c ∈ spaces, c.char = ' ')
    (hrest : ∀ c ∈ rest.head?, isSpaceChar c.char = false) (column : Nat) :
    indent ⟨spaces ++ rest, column, 0⟩ = spaces.length := by
  have hblank : spaces.text = List.replicate spaces.length ' ' :=
    List.eq_replicate_iff.mpr ⟨List.length_map _, List.forall_mem_map.mpr hspaces⟩
  have htext : Chars.text (spaces ++ rest) = List.replicate spaces.length ' ' ++ rest.text := by
    rw [← hblank]
    exact List.map_append
  have hhead : ∀ c ∈ rest.text.head?, isSpaceChar c = false := by
    intro c hc
    rw [Chars.text, List.head?_map] at hc
    obtain ⟨first, hfirst, rfl⟩ := Option.map_eq_some_iff.mp hc
    exact hrest first hfirst
  exact (Nat.zero_add _).trans (indentFrom_of_text htext hhead).1

/-- Behind all the spaces stands the rest. -/
theorem skipAll_spaces (hspaces : ∀ c ∈ spaces, c.char = ' ')
    (hrest : ∀ c ∈ rest.head?, isSpaceChar c.char = false) (column : Nat) :
    skipAll ⟨spaces ++ rest, column, 0⟩ = ⟨rest, column + spaces.length, 0⟩ := by
  rw [skipAll, indent_spaces hspaces hrest, skip_spaces hspaces Nat.le.refl, List.drop_length,
    List.nil_append]

end Cursor

namespace Opening

/-- A marker starts with a character that is no blank. -/
theorem exists_cons_of_listMarker? {line : Chars} (hmarker : (listMarker? line).isSome) :
    ∃ first rest, line = first :: rest ∧ ¬ isGap first.char := by
  have hstarts : StartsBlock line.text := by
    rcases listMarker?_isSome_iff.mp hmarker with ⟨bullet, rest, hbullet, hgap, htext⟩ |
      ⟨digits, sign, rest, hsome, hcount, hdigits, hsign, hgap, htext⟩ <;> rw [htext]
    · exact .bullet hbullet hgap
    · exact .number hsome hcount hdigits hsign hgap
  obtain ⟨c, rest, htext, hsign⟩ := hstarts.exists_sign
  obtain ⟨first, others, rfl, rfl, -⟩ := List.map_eq_cons_iff.mp htext
  exact ⟨first, others, rfl, Bool.eq_false_iff.mp (not_isGap_of_isBlockSign hsign)⟩

/-- A marker is as wide as its digits and one character more. -/
theorem width_of_listMarker? {line : Chars} {marker : ListMarker} {width : Nat}
    (hmarker : listMarker? line = some (marker, width)) :
    width = (line.takeWhile fun c => c.char.isDigit).length + 1 := by
  rw [listMarker?] at hmarker
  have hfound := (Option.filter_eq_some_iff.mp hmarker).1
  split at hfound
  · split at hfound
    · next hnone =>
        rw [hnone]
        split at hfound <;> cases hfound
        rfl
    · split at hfound <;> cases hfound
      rfl
  · cases hfound

/-- The first line of an item, with one space behind the marker. -/
structure ItemLine where
  /-- The digits of the marker, if it has any. -/
  number : Chars
  sign : SourceChar
  space : SourceChar
  content : Chars
  isDigit : ∀ c ∈ number, c.char.isDigit
  space_eq : space.char = ' '
  not_isSpaceChar : ∀ c ∈ content.head?, isSpaceChar c.char = false

namespace ItemLine

variable (line : ItemLine)

/-- The number and what follows it. -/
def marker : List Char :=
  line.number.text ++ [line.sign.char]

/-- The marker, a space and the content. -/
def chars : Chars :=
  line.number ++ line.sign :: line.space :: line.content

/-- The marker has one character more than the number. -/
theorem length_marker : line.marker.length = line.number.length + 1 := by
  rw [marker, List.length_append, Chars.text, List.length_map]
  rfl

/-- Behind the marker stand the space and the content. -/
theorem drop_chars : line.chars.drop line.marker.length = [line.space] ++ line.content := by
  rw [length_marker, chars, List.append_cons, List.drop_left' (by simp)]
  rfl

/-- The number ends before the space. -/
theorem not_isDigit_space : ∀ c ∈ (line.space :: line.content).head?, c.char.isDigit = false := by
  rintro _ ⟨⟩
  rw [line.space_eq]
  rfl

/-- If the reader finds a marker, it takes the sign for that of the marker. -/
theorem sign_mem (hmarker : (listMarker? line.chars).isSome) :
    line.sign.char ∈ ['-', '+', '*'] ++ ['.', ')'] := by
  cases hdigit : line.sign.char.isDigit with
  | true =>
      -- The space would be the sign.
      have hdigits : ∀ c ∈ line.number ++ [line.sign], c.char.isDigit :=
        List.forall_mem_append.mpr ⟨line.isDigit, List.forall_mem_singleton.mpr hdigit⟩
      rw [chars, List.append_cons, listMarker?_append hdigits line.not_isDigit_space] at hmarker
      obtain ⟨sign, rest, hsame, -, hkinds⟩ := hmarker
      obtain ⟨rfl, -⟩ := List.cons.inj hsame
      rw [line.space_eq] at hkinds
      simp at hkinds
  | false =>
      rw [chars, listMarker?_append line.isDigit (by simpa using hdigit)] at hmarker
      obtain ⟨sign, rest, hsame, -, ⟨-, hbullet⟩ | ⟨-, -, hsign⟩⟩ := hmarker <;>
        obtain ⟨rfl, -⟩ := List.cons.inj hsame
      · exact List.mem_append_left _ hbullet
      · exact List.mem_append_right _ hsign

/-- The reader takes no more and no less than the marker. -/
theorem exists_listMarker? (hmarker : (listMarker? line.chars).isSome) :
    ∃ found, listMarker? line.chars = some (found, line.marker.length) := by
  obtain ⟨⟨found, width⟩, hfound⟩ := Option.isSome_iff_exists.mp hmarker
  have hsign := not_isDigit_of_mem _ (line.sign_mem hmarker)
  have htaken : line.chars.takeWhile (fun c => c.char.isDigit) = line.number := by
    rw [chars, List.takeWhile_append_of_pos line.isDigit,
      List.takeWhile_cons_of_neg (by simp [hsign]), List.append_nil]
  rw [width_of_listMarker? hfound, htaken, ← length_marker] at hfound
  exact ⟨found, hfound⟩

/-- A number with a sign behind it is a marker if it has up to nine digits. -/
theorem isSome_listMarker?_iff (hnumber : line.number ≠ []) (hsign : line.sign.char ∈ ['.', ')']) :
    (listMarker? line.chars).isSome ↔ line.number.length ≤ 9 := by
  have hdigit : line.sign.char.isDigit = false :=
    not_isDigit_of_mem _ (List.mem_append_right _ hsign)
  have hgap : (Chars.peek (line.space :: line.content)).all isGap := by
    show isGap line.space.char = true
    rw [line.space_eq]
    rfl
  rw [chars, listMarker?_append line.isDigit (by simpa using hdigit)]
  constructor
  · rintro ⟨sign, rest, -, -, ⟨hnone, -⟩ | ⟨-, hcount, -⟩⟩
    · exact absurd hnone hnumber
    · exact hcount
  · exact fun hcount => ⟨_, _, rfl, hgap, .inr ⟨hnumber, hcount, hsign⟩⟩

/-- The content of the item stands behind the marker and the space. -/
theorem exists_item? (hmarker : (listMarker? line.chars).isSome) (column : Nat) :
    ∃ opening, item? ⟨line.chars, column, 0⟩ = some opening ∧
      opening.indent = line.marker.length + 1 ∧ opening.content.rest = line.content := by
  obtain ⟨found, hfound⟩ := line.exists_listMarker? hmarker
  obtain ⟨first, rest, hline, hfirst⟩ := exists_cons_of_listMarker? hmarker
  have hspaces : ∀ c ∈ [line.space], c.char = ' ' := List.forall_mem_singleton.mpr line.space_eq
  have hafter := Cursor.indent_spaces hspaces line.not_isSpaceChar (column + line.marker.length)
  have hskip := @Cursor.skip_spaces _ line.content hspaces 1 Nat.le.refl
    (column + line.marker.length)
  have hused : ∀ blank : Bool, (if blank || decide (4 < 1) then 1 else 1) = 1 :=
    fun blank => ite_self 1
  rw [← drop_chars] at hafter hskip
  rw [item?, hline, Cursor.indent_of_not_isGap hfirst, Cursor.skipAll_of_not_isGap hfirst, ← hline]
  simp only [hfound, Cursor.advance, hafter, List.length_singleton, hused, hskip]
  exact ⟨_, rfl, Nat.zero_add _ ▸ rfl, rfl⟩

end ItemLine

/-- A line of text that starts no block and no HTML, behind some spaces. -/
structure TextLine where
  spaces : Chars
  text : Chars
  isSpace : ∀ c ∈ spaces, c.char = ' '
  not_isGap : ∃ first rest, text = first :: rest ∧ ¬ isGap first.char
  startsNoBlock : ¬ StartsBlock text.text
  startsNoHtml : Html.ending? false text = none

namespace TextLine

variable (line : TextLine) (width column : Nat)

/-- The start of the line, at a column. -/
def cursor : Cursor :=
  ⟨line.spaces ++ line.text, column, 0⟩

/-- The line without its first spaces. -/
def drop : TextLine :=
  { line with
    spaces := line.spaces.drop width
    isSpace := fun c hc => line.isSpace c (List.mem_of_mem_drop hc) }

/-- The text starts with no space. -/
theorem not_isSpaceChar : ∀ c ∈ line.text.head?, isSpaceChar c.char = false := by
  obtain ⟨first, rest, htext, hfirst⟩ := line.not_isGap
  rw [htext]
  rintro _ ⟨⟩
  rw [isGap, Bool.or_eq_true, not_or, Bool.not_eq_true] at hfirst
  exact hfirst.1

/-- A line with text is not blank. -/
theorem isBlank_cursor : (line.cursor column).isBlank = false := by
  obtain ⟨first, rest, htext, hfirst⟩ := line.not_isGap
  refine not_isBlank_of_mem (c := first.char) ?_ hfirst
  rw [cursor, htext, Chars.text, List.map_append]
  exact List.mem_append_right _ List.mem_cons_self

/-- Its indent is the number of its spaces. -/
theorem indent_cursor : (line.cursor column).indent = line.spaces.length :=
  Cursor.indent_spaces line.isSpace line.not_isSpaceChar column

/-- Behind all spaces stands the text. -/
theorem skipAll_cursor :
    (line.cursor column).skipAll = ⟨line.text, column + line.spaces.length, 0⟩ :=
  Cursor.skipAll_spaces line.isSpace line.not_isSpaceChar column

/-- Behind some spaces stands a line with fewer. -/
theorem skip_cursor (hwidth : width ≤ line.spaces.length) :
    (line.cursor column).skip width = (line.drop width).cursor (column + width) :=
  Cursor.skip_spaces line.isSpace hwidth column

/-- The text starts no block. -/
theorem startsBlock_cursor : startsBlock (line.cursor column) = false := by
  obtain ⟨first, rest, htext, hfirst⟩ := line.not_isGap
  rw [← Bool.not_eq_true, startsBlock_iff_rest, line.skipAll_cursor, startsBlock_rest_iff]
  · exact fun hstarts => line.startsNoBlock hstarts.2
  · rw [htext]
    rintro - _ ⟨⟩
    exact Bool.eq_false_iff.mpr hfirst

end TextLine

end Opening

namespace BlockReader

open Opening

/-- A line of text goes on in an item if it is indented as far as the item's content. -/
theorem continues?_item (line : TextLine) (width column : Nat) :
    continues? (.item width) (line.cursor column) =
      if width ≤ line.spaces.length then some ((line.drop width).cursor (column + width))
      else none := by
  simp only [continues?, line.isBlank_cursor, Bool.false_or, line.indent_cursor, decide_eq_true_eq]
  split
  case isTrue hle => rw [line.skip_cursor width column hle]
  case isFalse => rfl

/-- Where no paragraph is open, text is read as a paragraph behind up to three spaces, and as
indented code behind more. -/
theorem leaf_openBlocks (line : TextLine) {reader : BlockReader}
    (hparagraph : reader.inParagraph = false) (kept fuel column : Nat) :
    (openBlocks (fuel + 1) reader kept (line.cursor column)).leaf.map Leaf.kind =
      some (if line.spaces.length ≤ 3 then .paragraph else .indentedCode) := by
  have hindent := line.indent_cursor column
  split
  case isTrue hle =>
    have hhtml : Html.ending? reader.inParagraph (line.cursor column).skipAll.rest = none := by
      rw [hparagraph, line.skipAll_cursor]
      exact line.startsNoHtml
    rw [openBlocks_of_not_startsBlock reader kept fuel (line.isBlank_cursor column)
      (hindent.trans_le hle) (line.startsBlock_cursor column) hhtml (.inl hparagraph)]
    simp only [addText, hparagraph, Bool.false_eq_true, if_false]
    rfl
  case isFalse hmore =>
    have hcode : 4 ≤ (line.cursor column).indent := hindent.symm ▸ Nat.lt_of_not_le hmore
    rw [openBlocks]
    simp only [line.isBlank_cursor, hcode, hparagraph, Bool.false_eq_true, if_false, if_true]
    rfl

/-- A further paragraph of an item with the marker, behind the given number of spaces and below
a blank line, is read in the item, as a leaf of the given kind. -/
def ReadsInItem (marker : List Char) (indent : Nat) (kind : LeafKind) : Prop :=
  ∀ (first : ItemLine) (later : TextLine), first.marker = marker →
    (listMarker? first.chars).isSome → later.spaces.length = indent → ∀ column laterColumn,
      ∃ opening inner, item? ⟨first.chars, column, 0⟩ = some opening ∧
        continues? (.item opening.indent) (later.cursor laterColumn) = some inner ∧
        inner.skipAll.rest = later.text ∧
        ∀ {reader : BlockReader}, reader.inParagraph = false → ∀ kept fuel,
          (openBlocks (fuel + 1) reader kept inner).leaf.map Leaf.kind = some kind

/-- Behind at least as many spaces as there are columns before the item's content, and up to
three more, a paragraph is read as a paragraph; behind more, as indented code. -/
theorem readsInItem {marker : List Char} {indent : Nat} (hindent : marker.length + 1 ≤ indent) :
    ReadsInItem marker indent
      (if indent ≤ marker.length + 4 then .paragraph else .indentedCode) := by
  rintro first later rfl hmarker rfl column laterColumn
  obtain ⟨opening, hitem, hwidth, -⟩ := first.exists_item? hmarker column
  let inner := (later.drop opening.indent).cursor (laterColumn + opening.indent)
  have hcontinues : continues? (.item opening.indent) (later.cursor laterColumn) = some inner := by
    rw [continues?_item, if_pos (hwidth.trans_le hindent)]
  refine ⟨opening, inner, hitem, hcontinues, ?_, fun {reader} hparagraph kept fuel => ?_⟩
  · rw [TextLine.skipAll_cursor]
    rfl
  · have hleft : (later.drop opening.indent).spaces.length =
        later.spaces.length - (first.marker.length + 1) := by
      rw [← hwidth]
      exact List.length_drop
    rw [leaf_openBlocks _ hparagraph, hleft]
    exact congrArg some (if_congr (by omega) rfl rfl)

end BlockReader

end MarkdownFormat
