/-
# Thematic breaks behind markers

A thematic break that is first in an item is written on the line of the item's marker, and
maybe of other markers and quotes around it. The printer is run once more, with what each
container puts before a line kept apart from the line. From the first marker on, such a line
is itself a thematic break just if it has nothing but bullets that are the mark of the break.
-/

import MarkdownFormat.Proofs.Render.Printing
import MarkdownFormat.Proofs.Text.Boundary

namespace MarkdownFormat

/-- The bytes that thematic breaks are made of. -/
def ruleMarks : List UInt8 :=
  [0x2D, 0x2A, 0x5F]

/-- Whether a line has only spaces and three or more of one of the marks. -/
def isRuleText (line : Bytes) : Bool :=
  ruleMarks.any fun mark =>
    line.all (fun byte => byte = 0x20 || byte = mark) && decide (3 ≤ line.count mark)

/-- In front of a thematic break there may only be spaces and more of its marks. -/
theorem isRuleText_append_replicate {front : Bytes} {mark : UInt8} (hmark : mark ∈ ruleMarks)
    {count : Nat} (hcount : 3 ≤ count) :
    isRuleText (front ++ List.replicate count mark) ↔
      ∀ byte ∈ front, byte = 0x20 ∨ byte = mark := by
  simp only [isRuleText, List.any_eq_true, Bool.and_eq_true, List.all_eq_true, Bool.or_eq_true,
    decide_eq_true_eq, List.forall_mem_append]
  constructor
  · rintro ⟨other, -, ⟨hfront, hback⟩, -⟩
    have hmem : mark ∈ List.replicate count mark :=
      List.mem_replicate.mpr ⟨Nat.ne_of_gt (Nat.lt_of_lt_of_le (Nat.succ_pos 2) hcount), rfl⟩
    rcases hback mark hmem with rfl | rfl
    · exact absurd hmark (by decide)
    · exact hfront
  · intro hfront
    refine ⟨mark, hmark, ⟨hfront, fun byte hbyte => .inr (List.eq_of_mem_replicate hbyte)⟩, ?_⟩
    rw [List.count_append, List.count_replicate_self]
    exact Nat.le_add_left_of_le hcount

/-- A thematic break has no digits and no sign of a quote. -/
theorem not_forall_eq_mark {mark : UInt8} (hmark : mark ∈ ruleMarks) {bytes : Bytes}
    (hother : ∃ byte ∈ bytes, 0x30 ≤ byte ∧ byte ≤ 0x3E) :
    ¬ ∀ byte ∈ bytes, byte = 0x20 ∨ byte = mark := by
  intro hall
  obtain ⟨byte, hbyte, hlow, hhigh⟩ := hother
  simp only [ruleMarks, List.mem_cons, List.not_mem_nil, or_false] at hmark
  rcases hall byte hbyte with rfl | rfl
  · exact absurd hlow (by decide)
  · rcases hmark with rfl | rfl | rfl
    · exact absurd hlow (by decide)
    · exact absurd hlow (by decide)
    · exact absurd hhigh (by decide)

/-- Nothing is cut from a row of marks. -/
theorem trimmedLine_append_marks {mark : UInt8} (hmark : mark ∈ ruleMarks) (front : Bytes)
    {count : Nat} (hcount : 0 < count) :
    trimmedLine (front ++ List.replicate count mark) = front ++ List.replicate count mark := by
  obtain ⟨c, hascii, hblank, rfl⟩ :
      ∃ c : Char, c.toNat < 0x80 ∧ isBlank c = false ∧ c.toNat.toUInt8 = mark := by
    simp only [ruleMarks, List.mem_cons, List.not_mem_nil, or_false] at hmark
    rcases hmark with rfl | rfl | rfl
    · exact ⟨'-', by decide, by decide, rfl⟩
    · exact ⟨'*', by decide, by decide, rfl⟩
    · exact ⟨'_', by decide, by decide, rfl⟩
  exact Utf8.trimmedLine_append_replicate hascii hblank front hcount

namespace Printer

/-- What a container puts before a line. -/
inductive Piece
  /-- The sign of a quote. -/
  | quote
  /-- The marker of an item, which its first line has. -/
  | marker (bullet : UInt8) (ordered : Bool) (number : Nat)
  /-- The space that the other lines of an item have. -/
  | space (width : Nat)

namespace Piece

/-- A piece as it is written. -/
def bytes : Piece → Bytes
  | .quote => Utf8.encode ['>', ' ']
  | .marker bullet ordered number => itemPrefix bullet ordered number
  | .space width => List.replicate width 0x20

/-- Whether a piece is the marker of an item. -/
def isMarker : Piece → Bool
  | .marker _ _ _ => true
  | _ => false

/-- Whether a piece is blank. -/
def isSpace : Piece → Bool
  | .space _ => true
  | _ => false

/-- Whether the piece is an unordered marker whose bullet is the given mark or a space. -/
def isBullet (mark : UInt8) : Piece → Bool
  | .marker bullet ordered _ => !ordered && (bullet = mark || bullet = 0x20)
  | _ => false

/-- The number of an item has a digit. -/
theorem exists_digit (number : Nat) :
    ∃ byte ∈ Utf8.encode (Digits.decimal number), 0x30 ≤ byte ∧ byte ≤ 0x39 := by
  obtain ⟨c, rest, hdigits⟩ := List.exists_cons_of_ne_nil (@Nat.toDigits_ne_nil number 10)
  have hdigit : c.isDigit := by
    apply @Nat.isDigit_of_mem_toDigits 10 number c (by decide) (by decide)
    rw [hdigits]
    exact List.mem_cons_self
  obtain ⟨hlow, hhigh⟩ : 48 ≤ c.toNat ∧ c.toNat ≤ 57 := Char.isDigit_iff_toNat.mp hdigit
  have hbyte : c.toNat.toUInt8.toNat = c.toNat := Nat.mod_eq_of_lt (by omega)
  refine ⟨c.toNat.toUInt8, ?_, ?_, ?_⟩
  · rw [Digits.decimal, hdigits]
    show _ ∈ Utf8.encodeChar c ++ _
    rw [Utf8.encodeChar_of_lt (by omega)]
    exact List.mem_cons_self
  · rw [UInt8.le_iff_toNat_le, hbyte]
    exact hlow
  · rw [UInt8.le_iff_toNat_le, hbyte]
    exact hhigh

/-- Of all pieces but space, only bullets go with a thematic break. -/
theorem forall_mem_bytes_iff {mark : UInt8} (hmark : mark ∈ ruleMarks) {piece : Piece}
    (hspace : piece.isSpace = false) :
    (∀ byte ∈ piece.bytes, byte = 0x20 ∨ byte = mark) ↔ piece.isBullet mark := by
  cases piece with
  | quote =>
      refine iff_of_false (not_forall_eq_mark hmark ?_) Bool.false_ne_true
      exact ⟨0x3E, by decide, by decide, by decide⟩
  | marker bullet ordered number =>
      cases ordered with
      | false => simp [bytes, itemPrefix, isBullet, or_comm]
      | true =>
          refine iff_of_false (not_forall_eq_mark hmark ?_) Bool.false_ne_true
          obtain ⟨byte, hbyte, hlow, hhigh⟩ := exists_digit number
          exact ⟨byte, List.mem_append_left _ hbyte, hlow, UInt8.le_trans hhigh (by decide)⟩
  | space width => cases hspace

end Piece

/-- A line, and apart from it what containers put before it. -/
structure DressedLine where
  /-- What stands before the line, with the outermost container first. -/
  pieces : List Piece
  text : Bytes
  /-- The mark of the thematic break that the line is, if it is one. -/
  mark : Option UInt8

namespace DressedLine

/-- A line outside all containers, other than a thematic break. -/
def bare (text : Bytes) : DressedLine :=
  ⟨[], text, none⟩

/-- The line with one more piece before it. -/
def behind (piece : Piece) (line : DressedLine) : DressedLine :=
  { line with pieces := piece :: line.pieces }

/-- The line as it is written. -/
def bytes (line : DressedLine) : Bytes :=
  line.pieces.flatMap Piece.bytes ++ line.text

/-- What is written before the first marker, or before the line if there is no marker. -/
def unmarkedBytes (line : DressedLine) : Bytes :=
  (line.pieces.takeWhile (!·.isMarker)).flatMap Piece.bytes

/-- The pieces from the first marker on. -/
def marked (line : DressedLine) : List Piece :=
  line.pieces.dropWhile (!·.isMarker)

/-- What is written from the first marker on. -/
def markedBytes (line : DressedLine) : Bytes :=
  line.marked.flatMap Piece.bytes ++ line.text

/-- The line in two parts. -/
theorem bytes_eq (line : DressedLine) : line.bytes = line.unmarkedBytes ++ line.markedBytes := by
  rw [bytes, unmarkedBytes, markedBytes, marked, ← List.append_assoc, ← List.flatMap_append,
    List.takeWhile_append_dropWhile]

end DressedLine

section Dressed

variable (config : Config) (source : Bytes)

/-- The mark of a thematic break. -/
def ruleMark (previous : Option Kind) (label : Label) : UInt8 :=
  (if config.breakStyle = .dashed && followsText previous label then BreakStyle.starred
    else config.breakStyle).char.toNat.toUInt8

/-- The lines of an item: its marker before the first, space before the others. -/
def dressedItem (marker : UInt8) (ordered : Bool) (number : Nat) :
    List DressedLine → List DressedLine
  | [] => []
  | line :: lines =>
      line.behind (.marker marker ordered number) ::
        lines.map (.behind
          (.space (config.effectiveNestedListLength * (itemPrefix marker ordered number).length)))

mutual
/-- The lines of a block, with what containers put before them. -/
def dressed (previous : Option Kind) : Tree → List DressedLine
  | .node label children =>
    match label.element with
    | .thematicBreak =>
        [⟨[], rule config previous label, some (ruleMark config previous label)⟩]
    | .blockquote => (dressedRow (fun _ => id) 0 none children).map (.behind .quote)
    | .list marker ordered start =>
        dressedRow (dressedItem config marker ordered) start none children
    | .listItem =>
        if children.isEmpty then [.bare []] else dressedRow (fun _ => id) 0 none children
    | .document | .custom _ _ => dressedRow (fun _ => id) 0 none children
    | _ => (block config source previous (.node label children)).map .bare

/-- The lines of blocks that follow one another, with what containers put before them. -/
def dressedRow (dress : Nat → List DressedLine → List DressedLine) (number : Nat)
    (previous : Option Kind) : List Tree → List DressedLine
  | [] => []
  | tree :: rest =>
      (separation previous tree.label).map .bare ++ dress number (dressed previous tree) ++
        dressedRow dress (number + 1) (some tree.kind) rest
end

/-- The lines of a tree whose topmost node is a block, with what containers put before
them. -/
def dressedPrint (previous : Option Kind) (tree : Tree) : List DressedLine :=
  (separation previous tree.label).map .bare ++ dressed config source previous tree

variable {config source}

/-- A thematic break has one of the three marks. -/
theorem ruleMark_mem (previous : Option Kind) (label : Label) :
    ruleMark config previous label ∈ ruleMarks := by
  have hstyle : ∀ style : BreakStyle, style.char.toNat.toUInt8 ∈ ruleMarks := by
    intro style
    cases style <;> decide
  exact hstyle _

/-- A thematic break repeats its mark. -/
theorem rule_eq_replicate (previous : Option Kind) (label : Label) :
    rule config previous label =
      List.replicate config.effectiveBreakLength (ruleMark config previous label) := by
  have hascii : ∀ style : BreakStyle, style.char.toNat < 0x80 := by
    intro style
    cases style <;> decide
  exact Utf8.encode_replicate (hascii _) _

/-- Lines without pieces are their bytes. -/
theorem map_bytes_bare (lines : List Bytes) :
    (lines.map DressedLine.bare).map DressedLine.bytes = lines := by
  rw [List.map_map]
  exact List.map_id lines

/-- A piece stands in front of each line. -/
theorem map_bytes_behind (piece : Piece) (lines : List DressedLine) :
    (lines.map (.behind piece)).map DressedLine.bytes =
      (lines.map DressedLine.bytes).map (piece.bytes ++ ·) := by
  rw [List.map_map, List.map_map]
  apply List.map_congr_left
  intro line _
  simp [DressedLine.bytes, DressedLine.behind]

/-- An item puts its marker and its indent in front of each line. -/
theorem map_bytes_dressedItem (marker : UInt8) (ordered : Bool) (number : Nat)
    (lines : List DressedLine) :
    (dressedItem config marker ordered number lines).map DressedLine.bytes =
      item config marker ordered number (lines.map DressedLine.bytes) := by
  cases lines with
  | nil => rfl
  | cons line lines =>
      rw [dressedItem, List.map_cons, map_bytes_behind]
      simp [item, hang, DressedLine.bytes, DressedLine.behind, Piece.bytes]

/-- Block by block, the lines are those of the printer. -/
theorem map_bytes_dressed_rows :
    (∀ (tree : Tree) (previous : Option Kind),
      (dressed config source previous tree).map DressedLine.bytes =
        block config source previous tree) ∧
    ∀ (trees : List Tree) (dress : Nat → List DressedLine → List DressedLine)
      (dressBytes : Nat → List Bytes → List Bytes) (number : Nat) (previous : Option Kind),
      (∀ number lines, (dress number lines).map DressedLine.bytes =
        dressBytes number (lines.map DressedLine.bytes)) →
      (dressedRow config source dress number previous trees).map DressedLine.bytes =
        row config source dressBytes number previous trees := by
  apply Tree.rows_induction
  · intro label children ih previous
    have hplain : (dressedRow config source (fun _ => id) 0 none children).map DressedLine.bytes =
        row config source plain 0 none children :=
      ih _ _ 0 none fun _ _ => rfl
    rw [dressed]
    split
    case h_1 helement =>
      rw [block, helement]
      rfl
    case h_2 helement =>
      rw [map_bytes_behind, hplain, block, helement]
      rfl
    case h_3 marker ordered start helement =>
      rw [block, helement]
      exact ih _ _ start none (map_bytes_dressedItem marker ordered)
    case h_4 helement =>
      rw [block, helement, ← hplain]
      exact apply_ite (List.map DressedLine.bytes) _ [.bare []] _
    case h_5 helement => rw [hplain, block, helement]
    case h_6 helement => rw [hplain, block, helement]
    case h_7 => exact map_bytes_bare _
  · intro dress dressBytes number previous hdress
    rfl
  · intro tree rest ihTree ihRest dress dressBytes number previous hdress
    simp only [dressedRow, row, List.map_append, map_bytes_bare, hdress, ihTree]
    rw [ihRest dress dressBytes _ _ hdress]

/-- So they are for a whole tree. -/
theorem map_bytes_dressedPrint {tree : Tree} (hblock : tree.kind.isBlock)
    (previous : Option Kind) :
    (dressedPrint config source previous tree).map DressedLine.bytes =
      print config source previous tree := by
  rw [dressedPrint, print, if_pos hblock, List.map_append, map_bytes_bare,
    map_bytes_dressed_rows.1]

/-- There is no space between a marker and the line, and a thematic break is of its mark. -/
structure DressedLine.IsTidy (config : Config) (line : DressedLine) : Prop where
  marked : line.marked.any Piece.isSpace = false
  rule : ∀ mark ∈ line.mark, mark ∈ ruleMarks ∧
    line.text = List.replicate config.effectiveBreakLength mark

namespace DressedLine.IsTidy

variable {line : DressedLine}

/-- A line without pieces is tidy. -/
theorem bare (text : Bytes) : (DressedLine.bare text).IsTidy config := ⟨rfl, nofun⟩

/-- Other than a marker, a piece in front is before the first marker. -/
theorem behind (hline : line.IsTidy config) {piece : Piece} (hpiece : piece.isMarker = false) :
    (line.behind piece).IsTidy config := by
  refine ⟨?_, hline.rule⟩
  show ((piece :: line.pieces).dropWhile _).any _ = false
  rw [List.dropWhile_cons_of_pos (by simp [hpiece])]
  exact hline.marked

/-- Behind a marker all pieces count. -/
theorem behind_marker (hline : line.IsTidy config)
    (hpieces : line.pieces.any Piece.isSpace = false) {piece : Piece} (hpiece : piece.isMarker) :
    (line.behind piece).IsTidy config := by
  refine ⟨?_, hline.rule⟩
  show ((piece :: line.pieces).dropWhile _).any _ = false
  rw [List.dropWhile_cons_of_neg (by simp [hpiece]), List.any_cons, hpieces]
  cases piece <;> first | rfl | cases hpiece

/-- From the first marker on, the line of a thematic break is one just if there are only
bullets of its mark in front of it. -/
theorem isRuleText_iff (hline : line.IsTidy config) {mark : UInt8} (hmark : mark ∈ line.mark) :
    isRuleText line.markedBytes ↔ ∀ piece ∈ line.marked, piece.isBullet mark := by
  obtain ⟨hmem, htext⟩ := hline.rule mark hmark
  rw [markedBytes, htext, isRuleText_append_replicate hmem config.three_le_effectiveBreakLength,
    List.forall_mem_flatMap]
  have hspaceless := List.any_eq_false.mp hline.marked
  exact forall₂_congr fun piece hpiece =>
    Piece.forall_mem_bytes_iff hmem ((Bool.not_eq_true _).mp (hspaceless piece hpiece))

/-- Nothing is cut from the line of a thematic break. -/
theorem finished_eq (hline : line.IsTidy config) {mark : UInt8} (hmark : mark ∈ line.mark) :
    finished line.bytes = line.unmarkedBytes ++ line.markedBytes ++ [newline] := by
  obtain ⟨hmem, htext⟩ := hline.rule mark hmark
  rw [← bytes_eq, finished, bytes, htext,
    trimmedLine_append_marks hmem _
      (Nat.lt_of_lt_of_le (Nat.succ_pos 2) config.three_le_effectiveBreakLength)]

end DressedLine.IsTidy

/-- The lines are tidy, and the first is not indented. -/
structure Tidy (config : Config) (lines : List DressedLine) : Prop where
  first : ∀ line ∈ lines.head?, line.pieces.any Piece.isSpace = false
  each : ∀ line ∈ lines, line.IsTidy config

namespace Tidy

variable {front back lines : List DressedLine}

/-- No lines are tidy. -/
theorem nil : Tidy config [] := ⟨by simp, by simp⟩

/-- Lines put together are tidy if they were. -/
theorem append (hfront : Tidy config front) (hback : Tidy config back) :
    Tidy config (front ++ back) := by
  refine ⟨fun line hline => ?_, List.forall_mem_append.mpr ⟨hfront.each, hback.each⟩⟩
  cases front with
  | nil => exact hback.first line hline
  | cons first rest => exact hfront.first line hline

/-- Lines without pieces are tidy. -/
theorem bare (lines : List Bytes) : Tidy config (lines.map .bare) := by
  refine ⟨?_, List.forall_mem_map.mpr fun line _ => .bare line⟩
  rw [List.head?_map]
  intro line hline
  obtain ⟨text, -, rfl⟩ := Option.map_eq_some_iff.mp hline
  rfl

/-- A thematic break is tidy. -/
theorem rule (previous : Option Kind) (label : Label) :
    Tidy config [⟨[], rule config previous label, some (ruleMark config previous label)⟩] := by
  have hline : DressedLine.IsTidy config
      ⟨[], Printer.rule config previous label, some (ruleMark config previous label)⟩ := by
    refine ⟨rfl, ?_⟩
    rintro _ ⟨⟩
    exact ⟨ruleMark_mem previous label, rule_eq_replicate previous label⟩
  refine ⟨?_, List.forall_mem_singleton.mpr hline⟩
  rintro _ ⟨⟩
  rfl

/-- So are lines in a quote. -/
theorem quoted (hlines : Tidy config lines) : Tidy config (lines.map (.behind .quote)) := by
  refine ⟨?_, List.forall_mem_map.mpr fun line hline => (hlines.each line hline).behind rfl⟩
  rw [List.head?_map]
  intro line hline
  obtain ⟨inner, hinner, rfl⟩ := Option.map_eq_some_iff.mp hline
  exact hlines.first inner hinner

/-- So are lines in an item. -/
theorem item (hlines : Tidy config lines) (marker : UInt8) (ordered : Bool) (number : Nat) :
    Tidy config (dressedItem config marker ordered number lines) := by
  cases lines with
  | nil => exact .nil
  | cons line lines =>
      have hspaceless := hlines.first line rfl
      obtain ⟨hline, hrest⟩ := List.forall_mem_cons.mp hlines.each
      refine ⟨?_, List.forall_mem_cons.mpr ⟨hline.behind_marker hspaceless rfl, ?_⟩⟩
      · rintro _ ⟨⟩
        exact hspaceless
      · exact List.forall_mem_map.mpr fun other hother => (hrest other hother).behind rfl

end Tidy

/-- Block by block, all lines are tidy. -/
theorem tidy_dressed_rows :
    (∀ (tree : Tree) (previous : Option Kind), Tidy config (dressed config source previous tree)) ∧
    ∀ (trees : List Tree) (dress : Nat → List DressedLine → List DressedLine) (number : Nat)
      (previous : Option Kind),
      (∀ number lines, Tidy config lines → Tidy config (dress number lines)) →
      Tidy config (dressedRow config source dress number previous trees) := by
  apply Tree.rows_induction
  · intro label children ih previous
    have hplain : Tidy config (dressedRow config source (fun _ => id) 0 none children) :=
      ih _ 0 none fun _ _ hlines => hlines
    rw [dressed]
    split
    case h_1 => exact .rule previous label
    case h_2 => exact hplain.quoted
    case h_3 marker ordered start _ =>
      exact ih _ start none fun number _ hlines => hlines.item marker ordered number
    case h_4 =>
      split
      · exact .bare [[]]
      · exact hplain
    case h_5 => exact hplain
    case h_6 => exact hplain
    case h_7 => exact .bare _
  · intro dress number previous hdress
    exact .nil
  · intro tree rest ihTree ihRest dress number previous hdress
    exact ((Tidy.bare _).append (hdress number _ (ihTree previous))).append
      (ihRest dress _ _ hdress)

/-- So they are for a whole tree. -/
theorem tidy_dressedPrint (previous : Option Kind) (tree : Tree) :
    Tidy config (dressedPrint config source previous tree) :=
  (Tidy.bare _).append (tidy_dressed_rows.1 tree previous)

end Dressed

end Printer

namespace Renderer

open Printer

/-- Rendering delivers the line of a thematic break with all its markers. From the first of
them on, the line is itself a thematic break just if the markers are bullets of its mark,
without a quote between them. -/
theorem render_markedRules (config : Config) (source : Bytes) (sink : Sink) {document : Document}
    {tree : Tree} (hsink : sink.limit = none) (hholds : document.Holds tree Document.root)
    (hmarkdown : tree.isMarkdown) (hblock : tree.kind.isBlock) (hroot : tree.kind ≠ .listItem) :
    ∃ last lines, (standard config).render sink source document = (none, last) ∧
      lines = dressedPrint config source
        ((document.node Document.root).previous.map document.kind) tree ∧
      last.writer.sink.received.toList =
        sink.received.toList ++ lines.map (fun line => finished line.bytes) ∧
      ∀ line ∈ lines, ∀ mark ∈ line.mark,
        finished line.bytes = line.unmarkedBytes ++ line.markedBytes ++ [newline] ∧
        (isRuleText line.markedBytes ↔ ∀ piece ∈ line.marked, piece.isBullet mark) := by
  obtain ⟨last, hrender, hreceived⟩ :=
    render_block config source sink hsink hholds hmarkdown hblock hroot
  rw [← map_bytes_dressedPrint hblock, List.map_map] at hreceived
  refine ⟨last, _, hrender, rfl, hreceived, fun line hline mark hmark => ?_⟩
  have htidy := (tidy_dressedPrint _ tree).each line hline
  exact ⟨htidy.finished_eq hmark, htidy.isRuleText_iff hmark⟩

/-- A quote with a bullet list. Its first item holds a thematic break, its second an ordered
list with another. -/
def quotedRules : Tree :=
  .node { element := .document } [.node { element := .blockquote } [
    .node { element := .list 0x2D false 1 } [
      .node { element := .listItem } [.node { element := .thematicBreak } []],
      .node { element := .listItem } [.node { element := .list 0x2E true 1 } [
        .node { element := .listItem } [.node { element := .thematicBreak } []]]]]]]

/-- A document that holds the quote. -/
def quotedRulesDocument : Document :=
  ⟨#[{ element := .document, firstChild := some 1, lastChild := some 1 },
    { element := .blockquote, parent := some 0, firstChild := some 2, lastChild := some 2 },
    { element := .list 0x2D false 1, parent := some 1, firstChild := some 3,
      lastChild := some 5 },
    { element := .listItem, parent := some 2, firstChild := some 4, lastChild := some 4,
      next := some 5 },
    { element := .thematicBreak, parent := some 3 },
    { element := .listItem, parent := some 2, firstChild := some 6, lastChild := some 6,
      previous := some 3 },
    { element := .list 0x2E true 1, parent := some 5, firstChild := some 7,
      lastChild := some 7 },
    { element := .listItem, parent := some 6, firstChild := some 8, lastChild := some 8 },
    { element := .thematicBreak, parent := some 7 }]⟩

/-- The document is that of the tree. -/
theorem quotedRules_holds : quotedRulesDocument.Holds quotedRules Document.root := by
  have hfirst : quotedRulesDocument.Holds
      (.node { element := .listItem } [.node { element := .thematicBreak } []]) 3 :=
    ⟨by decide, rfl, [4], ⟨rfl, rfl, rfl, rfl, rfl⟩, 4, [], rfl,
      ⟨by decide, rfl, [], ⟨rfl, rfl⟩, rfl⟩, rfl⟩
  have hsecond : quotedRulesDocument.Holds
      (.node { element := .listItem } [.node { element := .list 0x2E true 1 } [
        .node { element := .listItem } [.node { element := .thematicBreak } []]]]) 5 :=
    ⟨by decide, rfl, [6], ⟨rfl, rfl, rfl, rfl, rfl⟩, 6, [], rfl,
      ⟨by decide, rfl, [7], ⟨rfl, rfl, rfl, rfl, rfl⟩, 7, [], rfl,
        ⟨by decide, rfl, [8], ⟨rfl, rfl, rfl, rfl, rfl⟩, 8, [], rfl,
          ⟨by decide, rfl, [], ⟨rfl, rfl⟩, rfl⟩, rfl⟩, rfl⟩, rfl⟩
  exact ⟨by decide, rfl, [1], ⟨rfl, rfl, rfl, rfl, rfl⟩, 1, [], rfl,
    ⟨by decide, rfl, [2], ⟨rfl, rfl, rfl, rfl, rfl⟩, 2, [], rfl,
      ⟨by decide, rfl, [3, 5], ⟨rfl, rfl, rfl, rfl, rfl, rfl, rfl, rfl⟩, 3, [5], rfl, hfirst,
        5, [], rfl, hsecond, rfl⟩, rfl⟩, rfl⟩

/-- A dash goes with the dashes of the break behind it, but not if a number stands between. -/
theorem render_markedRules_quoted :
    Sink.unlimited.limit = none ∧ quotedRulesDocument.Holds quotedRules Document.root ∧
      quotedRules.isMarkdown ∧ quotedRules.kind.isBlock ∧ quotedRules.kind ≠ .listItem ∧
      ∃ last first second, (standard {}).render .unlimited [] quotedRulesDocument = (none, last) ∧
        last.writer.sink.received.toList =
          [Utf8.ofString "> " ++ first ++ [newline], Utf8.ofString "> " ++ second ++ [newline]] ∧
        first = Utf8.ofString "- ---" ∧ isRuleText first ∧
        second = Utf8.ofString "- 1. ---" ∧ ¬ isRuleText second := by
  have hmarkdown : quotedRules.isMarkdown := by decide +kernel
  have hroot : quotedRules.kind ≠ .listItem := by decide
  obtain ⟨last, lines, hrender, hlines, hreceived, hrules⟩ := render_markedRules {} [] .unlimited
    rfl quotedRules_holds hmarkdown rfl hroot
  have hprinted : lines = [
      ⟨[.quote, .marker 0x2D false 1], [0x2D, 0x2D, 0x2D], some 0x2D⟩,
      ⟨[.quote, .marker 0x2D false 2, .marker 0x2E true 1], [0x2D, 0x2D, 0x2D], some 0x2D⟩] :=
    hlines
  subst hprinted
  obtain ⟨hfirst, hrest⟩ := List.forall_mem_cons.mp hrules
  obtain ⟨hsecond, -⟩ := List.forall_mem_cons.mp hrest
  obtain ⟨hfirstLine, hfirstRule⟩ := hfirst 0x2D rfl
  obtain ⟨hsecondLine, hsecondRule⟩ := hsecond 0x2D rfl
  refine ⟨rfl, quotedRules_holds, hmarkdown, rfl, hroot, last, _, _, hrender,
    hreceived.trans (congrArg₂ (fun first second => [first, second]) hfirstLine hsecondLine),
    rfl, hfirstRule.mpr ?_, rfl, fun hrule => ?_⟩
  · exact List.forall_mem_singleton.mpr rfl
  · exact Bool.false_ne_true (hsecondRule.mp hrule (.marker 0x2E true 1) (.tail _ (.head _)))

/-- A bullet in front of a thematic break can be taken for a part of it. -/
theorem not_forall_render_markedRules :
    ¬ ∀ (config : Config) (source : Bytes) (sink : Sink) (document : Document) (tree : Tree),
      sink.limit = none → document.Holds tree Document.root → tree.isMarkdown →
      tree.kind.isBlock → tree.kind ≠ .listItem →
      ∃ last lines, (standard config).render sink source document = (none, last) ∧
        lines = dressedPrint config source
          ((document.node Document.root).previous.map document.kind) tree ∧
        last.writer.sink.received.toList =
          sink.received.toList ++ lines.map (fun line => finished line.bytes) ∧
        ∀ line ∈ lines, ∀ mark ∈ line.mark, line.marked ≠ [] →
          ¬ isRuleText line.markedBytes := by
  intro hall
  have hmarkdown : quotedRules.isMarkdown := by decide +kernel
  have hroot : quotedRules.kind ≠ .listItem := by decide
  obtain ⟨-, lines, -, hlines, -, hrules⟩ :=
    hall {} [] .unlimited quotedRulesDocument quotedRules rfl quotedRules_holds hmarkdown rfl hroot
  let line : DressedLine :=
    ⟨[.quote, .marker 0x2D false 1], [0x2D, 0x2D, 0x2D], some 0x2D⟩
  have hline : line ∈ lines := by
    rw [hlines]
    exact .head _
  exact hrules line hline 0x2D rfl (List.cons_ne_nil _ _) rfl

end Renderer

end MarkdownFormat
