/-
# Checked look-ups in the source

Blank lines and headings are found in the source by offsets. Here they are found once more, with
every look-up checked: if a byte or a slice lies outside of the bytes that it is taken from, or an
offset is less than what is taken off it, there is no answer. There always is one, except for a
heading whose range does not lie within the source, and it is the answer of the unchecked search.
-/

import Mathlib.Data.Nat.PSub
import MarkdownFormat.Proofs.Event.Spelling

namespace MarkdownFormat.Checked

open Spelling

/-- The byte in front of an offset. -/
def byteBefore (bytes : Bytes) (offset : Nat) : Option UInt8 := do
  bytes[← Nat.psub offset 1]?

/-- The bytes of a segment, as far as the source has them. -/
def segment (source : Bytes) (segment : Segment) : Option Bytes :=
  let stop := min segment.stop source.length
  slice? source ⟨min segment.start stop, stop⟩

/-- Whether a line starts at an offset. -/
def startsLine (source : Bytes) (start : Nat) : Option Bool :=
  if start = 0 then some true else (· == newline) <$> byteBefore source start

/-- Whether there is a complete blank line between two offsets. -/
def hasBlankLine (source : Bytes) (start stop : Nat) : Option Bool :=
  if start < stop ∧ stop ≤ source.length then do
    let atLineStart ← startsLine source start
    let lines := (splitLines (← slice? source ⟨start, stop⟩)).1
    return (if atLineStart then lines else lines.drop 1).any (·.all isQuoteBlank)
  else some false

/-- A line without spaces and markers of block quotes in front. -/
def withoutQuotes (line : Bytes) : Option Bytes :=
  match line.findIdx? fun byte => !isQuoteSpace byte with
  | some place => slice? line ⟨place, line.length⟩
  | none => some []

/-- Whether a line consists of an underline. -/
def isUnderline (line : Bytes) : Option Bool := do
  let marks ← withoutQuotes (trimBytes line)
  return marks ≠ [] && (marks.all (· == 0x3D) || marks.all (· == 0x2D))

/-- The first place from an offset on where no byte of a kind stands. -/
def skip (kind : UInt8 → Bool) (bytes : Bytes) (start : Nat) : Option Nat := do
  return start + ((← slice? bytes ⟨start, bytes.length⟩).takeWhile kind).length

/-- Where the text of a heading line starts, behind the number signs in front of it. -/
def contentStart (bytes : Bytes) : Option Nat := do
  skip isSpace bytes (← skip (· == 0x23) bytes (← skip (· == 0x20) bytes 0))

/-- Where the text of a heading line stops, in front of the number signs that close it. -/
def contentStop (bytes : Bytes) (start : Nat) : Option Nat := do
  let content ← slice? bytes ⟨start, bytes.length⟩
  let closing := (content.reverse.takeWhile (· == 0x23)).length
  let unclosed ← Nat.psub bytes.length closing
  if closing = (← Nat.psub bytes.length start) then return unclosed
  else return if isSpace (← byteBefore bytes unclosed) then unclosed else bytes.length

/-- The text of a heading line between its number signs. -/
def atxContent (source : Bytes) (line : Segment) : Option (Option Segment) := do
  let bytes ← segment source line
  let start ← contentStart bytes
  let text := trimBytesEnd (← slice? bytes ⟨start, ← contentStop bytes start⟩)
  return if text = [] then none
    else some ⟨line.start + start, line.start + start + text.length⟩

/-- A line of an underlined heading without what stands in front of its text. -/
def withoutIndent (source : Bytes) (isFirst : Bool) (line : Segment) : Option Segment := do
  let indent := (← segment source line).takeWhile (if isFirst then isSpace else isQuoteSpace)
  return line.withStart (line.start + indent.length)

/-- Whether the last of the lines behind the first one is an underline. -/
def endsUnderlined (source : Bytes) (rest : List Segment) : Option Bool :=
  match rest.getLast? with
  | some last => do isUnderline (← segment source last)
  | none => some false

/-- The content lines of a heading. -/
def headingLines (source : Bytes) (range : Segment) : Option (List Segment) := do
  let bytes ← slice? source range
  match contentSegments range.start (cutAfter (· == newline) bytes) with
  | [] => return []
  | first :: rest =>
    if ← endsUnderlined source rest then
      return (← withoutIndent source true first) ::
        (← rest.dropLast.mapM (withoutIndent source false))
    else return (← atxContent source first).toList

variable {source bytes : Bytes} {start stop : Nat}

/-- A slice is there if its ends are, in this order. -/
theorem slice?_of_le (hstart : start ≤ stop) (hstop : stop ≤ bytes.length) :
    slice? bytes ⟨start, stop⟩ = some ((bytes.drop start).take (stop - start)) :=
  if_pos ⟨hstart, hstop⟩

/-- The rest of some bytes is there from any place on. -/
theorem slice?_length (hstart : start ≤ bytes.length) :
    slice? bytes ⟨start, bytes.length⟩ = some (bytes.drop start) := by
  rw [slice?_of_le hstart (Nat.le_refl _), List.take_of_length_le (by rw [List.length_drop])]

/-- Before any place but the first there is a byte. -/
theorem byteBefore_eq (hpos : 0 < start) : byteBefore bytes start = bytes[start - 1]? := by
  rw [byteBefore, Nat.psub_eq_sub hpos]
  rfl

/-- A segment gives as many bytes as the source has. -/
theorem segment_eq (source : Bytes) (line : Segment) :
    segment source line = some (line.bytes source) := by
  rw [segment, slice?_of_le (Nat.min_le_right _ _) (Nat.min_le_right _ _)]
  refine congrArg some (List.ext_getElem? fun place => ?_)
  simp only [Segment.bytes, Segment.length, List.getElem?_take, List.getElem?_drop]
  rcases Nat.le_total line.start (min line.stop source.length) with hle | hle
  · rw [Nat.min_eq_left hle]
    by_cases hplace : line.start + place < source.length
    · exact if_congr (by omega) rfl rfl
    · rw [List.getElem?_eq_none (Nat.le_of_not_lt hplace), ite_self, ite_self]
  · rw [Nat.min_eq_right hle, Nat.sub_self, if_neg (Nat.not_lt_zero _)]
    symm
    rw [ite_eq_right_iff]
    intro hplace
    exact List.getElem?_eq_none (by omega)

/-- Whether a line starts at a place can be found out up to the end of the source. -/
theorem startsLine_eq (hstart : start ≤ source.length) :
    startsLine source start = some (start = 0 || source[start - 1]? = some newline) := by
  rw [startsLine]
  split
  · next hzero => simp [hzero]
  · next hpos =>
      have hplace : start - 1 < source.length := by omega
      rw [byteBefore_eq (Nat.pos_of_ne_zero hpos), List.getElem?_eq_getElem hplace]
      simp [hpos, beq_eq_decide]

/-- Whether there is a blank line between two places always can. -/
theorem hasBlankLine_eq (source : Bytes) (start stop : Nat) :
    hasBlankLine source start stop = some (Spelling.hasBlankLine source start stop) := by
  rw [hasBlankLine, Spelling.hasBlankLine]
  split
  · next hbounds =>
      obtain ⟨hlt, hle⟩ := hbounds
      simp [hlt, hle, startsLine_eq (hlt.le.trans hle), slice?_of_le hlt.le hle, Segment.bytes,
        Segment.length]
  · next hbounds =>
      rw [not_and_or] at hbounds
      rcases hbounds with hbounds | hbounds <;> simp [hbounds]

/-- So can what stands behind quote marks. -/
theorem withoutQuotes_eq (line : Bytes) :
    withoutQuotes line = some (line.dropWhile isQuoteSpace) := by
  rw [withoutQuotes]
  split
  · next place hfound =>
      obtain ⟨hplace, rfl⟩ := List.findIdx?_eq_some_iff_findIdx_eq.mp hfound
      rw [slice?_length hplace.le, List.dropWhile_eq_drop_findIdx_not]
  · next hnone =>
      rw [List.dropWhile_eq_nil_iff.mpr]
      simpa using hnone

/-- So can whether a line is an underline. -/
theorem isUnderline_eq (line : Bytes) : isUnderline line = some (Spelling.isUnderline line) := by
  rw [isUnderline, withoutQuotes_eq, Spelling.isUnderline]
  rfl

/-- What is skipped does not go beyond the end. -/
theorem exists_skip (kind : UInt8 → Bool) (hstart : start ≤ bytes.length) :
    ∃ next, skip kind bytes start = some next ∧ next ≤ bytes.length ∧
      bytes.drop next = (bytes.drop start).dropWhile kind := by
  have hle := ((bytes.drop start).takeWhile_sublist kind).length_le
  rw [List.length_drop] at hle
  refine ⟨start + ((bytes.drop start).takeWhile kind).length, ?_, by omega, ?_⟩
  · rw [skip, slice?_length hstart]
    rfl
  · rw [← List.drop_drop, drop_length_takeWhile]

/-- What stands behind the number signs in front of a heading. -/
def behindSigns (bytes : Bytes) : Bytes :=
  ((bytes.dropWhile (· == 0x20)).dropWhile (· == 0x23)).dropWhile isSpace

/-- The same without number signs that close the heading. -/
def withoutClosing (content : Bytes) : Bytes :=
  let closing := (content.reverse.takeWhile (· == 0x23)).length
  let unclosed := content.take (content.length - closing)
  if unclosed.getLast?.all isSpace then unclosed else content

/-- So can where the content of a heading starts, and it is there. -/
theorem exists_contentStart (bytes : Bytes) :
    ∃ start, contentStart bytes = some start ∧ start ≤ bytes.length ∧
      bytes.drop start = behindSigns bytes := by
  have hzero : 0 ≤ bytes.length := Nat.zero_le _
  obtain ⟨signs, hsigns, hsignsLe, hsignsDrop⟩ := exists_skip (· == 0x20) hzero
  obtain ⟨gap, hgap, hgapLe, hgapDrop⟩ := exists_skip (· == 0x23) hsignsLe
  obtain ⟨start, hstart, hstartLe, hstartDrop⟩ := exists_skip isSpace hgapLe
  refine ⟨start, ?_, hstartLe, ?_⟩
  · rw [contentStart, hsigns, Option.bind_eq_bind, Option.bind_some, hgap, Option.bind_some, hstart]
  · rw [hstartDrop, hgapDrop, hsignsDrop, List.drop_zero, behindSigns]

/-- The byte that decides about closing number signs is looked up only if there is other
content than them, so it is part of that content. -/
theorem exists_contentStop (hstart : start ≤ bytes.length) :
    ∃ stop, contentStop bytes start = some stop ∧
      slice? bytes ⟨start, stop⟩ = some (withoutClosing (bytes.drop start)) := by
  rw [contentStop, slice?_length hstart, withoutClosing]
  dsimp only [Option.bind_eq_bind, Option.bind_some]
  generalize hsigns : ((bytes.drop start).reverse.takeWhile (· == 0x23)).length = closing
  have hclosing : closing ≤ bytes.length - start := by
    have hle := ((bytes.drop start).reverse.takeWhile_sublist (· == 0x23)).length_le
    rwa [List.length_reverse, List.length_drop, hsigns] at hle
  have hunclosed : slice? bytes ⟨start, bytes.length - closing⟩ =
      some ((bytes.drop start).take (bytes.length - start - closing)) := by
    rw [slice?_of_le (by omega) (Nat.sub_le _ _), Nat.sub_right_comm]
  rw [Nat.psub_eq_sub hstart, Nat.psub_eq_sub (hclosing.trans (Nat.sub_le _ _)), List.length_drop]
  dsimp only [Option.bind_some]
  by_cases hall : closing = bytes.length - start
  · refine ⟨bytes.length - closing, if_pos hall, ?_⟩
    rw [hunclosed, hall, Nat.sub_self, List.take_zero]
    rfl
  · have hlast : byteBefore bytes (bytes.length - closing) =
        ((bytes.drop start).take (bytes.length - start - closing)).getLast? := by
      rw [byteBefore_eq (by omega), List.getLast?_eq_getElem?, List.length_take, List.length_drop,
        List.getElem?_take_of_lt (by omega), List.getElem?_drop]
      congr 1
      omega
    have hplace : bytes.length - closing - 1 < bytes.length := by omega
    rw [if_neg hall, ← hlast, byteBefore_eq (by omega), List.getElem?_eq_getElem hplace]
    refine ⟨_, rfl, ?_⟩
    rw [Option.all_some]
    split
    · exact hunclosed
    · exact slice?_length hstart

/-- So can the content of a heading. -/
theorem atxContent_eq (source : Bytes) (line : Segment) :
    atxContent source line = some (atxContent? source line) := by
  obtain ⟨start, hstart, hle, hdrop⟩ := exists_contentStart (line.bytes source)
  obtain ⟨stop, hstop, hslice⟩ := exists_contentStop hle
  have hplace : start = (line.bytes source).length - (behindSigns (line.bytes source)).length := by
    rw [← hdrop, List.length_drop, Nat.sub_sub_self hle]
  simp only [atxContent, segment_eq, Option.bind_eq_bind, Option.bind_some, hstart, hstop, hslice]
  rw [hdrop, hplace]
  rfl

/-- So can a line without its indent. -/
theorem withoutIndent_eq (source : Bytes) (isFirst : Bool) (line : Segment) :
    withoutIndent source isFirst line = some (Spelling.withoutIndent source isFirst line) := by
  rw [withoutIndent, segment_eq]
  rfl

/-- So can whether the last line is an underline. -/
theorem endsUnderlined_eq (source : Bytes) (rest : List Segment) :
    endsUnderlined source rest =
      some (rest.getLast?.any fun last => Spelling.isUnderline (last.bytes source)) := by
  rw [endsUnderlined]
  cases rest.getLast? with
  | none => rfl
  | some last =>
      simp only [segment_eq, Option.bind_eq_bind, Option.bind_some, isUnderline_eq, Option.any_some]

/-- Only the range of a heading can lie outside of the source. -/
theorem headingLines_eq (source : Bytes) (range : Segment) :
    headingLines source range = headingLines? source range := by
  rw [headingLines, headingLines?]
  cases slice? source range with
  | none => rfl
  | some bytes =>
      rw [Option.bind_eq_bind, Option.bind_some, Option.map_some]
      cases contentSegments range.start (cutAfter (· == newline) bytes) with
      | nil => rfl
      | cons first rest =>
          have hindents : rest.dropLast.mapM (withoutIndent source false) =
              some (rest.dropLast.map (Spelling.withoutIndent source false)) := by
            rw [funext (withoutIndent_eq source false)]
            exact List.mapM_pure
          simp only [endsUnderlined_eq, withoutIndent_eq, hindents, atxContent_eq,
            Option.bind_eq_bind, Option.bind_some]
          exact (apply_ite some _ _ _).symm

end MarkdownFormat.Checked
