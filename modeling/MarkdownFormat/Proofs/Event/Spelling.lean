/-
# Places read off the source

What is read off the source around a place are ASCII bytes: backslashes, number signs,
blanks, angle brackets and line endings. So a segment that is moved over them still begins
and ends at boundaries.
-/

import MarkdownFormat.Event.Spelling
import MarkdownFormat.Proofs.Text.Boundary
import MarkdownFormat.Proofs.Text.Segment

namespace MarkdownFormat.Spelling

open Utf8

variable {source : Bytes}

/-- Spaces are ASCII. -/
theorem ascii_of_isSpace {byte : UInt8} (hbyte : isSpace byte) : byte.toNat < 0x80 := by
  simp only [isSpace, Bool.or_eq_true, beq_iff_eq] at hbyte
  rcases hbyte with rfl | rfl <;> decide

/-- So are quote marks. -/
theorem ascii_of_isQuoteSpace {byte : UInt8} (hbyte : isQuoteSpace byte) :
    byte.toNat < 0x80 := by
  simp only [isQuoteSpace, Bool.or_eq_true, beq_iff_eq] at hbyte
  rcases hbyte with hspace | rfl
  · exact ascii_of_isSpace hspace
  · decide

/-- So are all bytes that are taken for it. -/
theorem ascii_takeWhile {p : UInt8 → Bool} (hp : ∀ byte, p byte → byte.toNat < 0x80)
    (bytes : Bytes) : ∀ byte ∈ bytes.takeWhile p, byte.toNat < 0x80 :=
  fun byte hbyte => hp byte (List.mem_takeWhile_imp hbyte)

/-- A text starts where it is reported, or at the backslash in front. -/
theorem exists_textStart_isBoundary {start : Nat} (hstart : IsBoundary source start) :
    ∃ first, textStart? source start = some first ∧ IsBoundary source first := by
  cases start with
  | zero => exact ⟨0, rfl, hstart⟩
  | succ before =>
      obtain ⟨byte, hbefore⟩ : ∃ byte, source[before]? = some byte :=
        ⟨_, List.getElem?_eq_getElem hstart.le_length⟩
      simp only [textStart?, hbefore]
      split
      · next hescape =>
          rw [Bool.and_eq_true, beq_iff_eq] at hescape
          refine ⟨before, rfl, (isBoundary_ascii hstart.isText hbefore ?_).1⟩
          rw [hescape.1]
          decide
      · exact ⟨before + 1, rfl, hstart⟩

/-- The address between angle brackets begins and ends at boundaries. -/
theorem isWhole_address {range : Segment} (hrange : range.IsWhole source)
    (hopening : (range.bytes source).head? = some 0x3C)
    (hclosing : (range.bytes source).getLast? = some 0x3E) :
    Segment.IsWhole source ⟨range.start + 1, range.stop - 1⟩ := by
  have hsource := hrange.start.isText
  have hstart := (Segment.head?_bytes hopening).2
  have hstop := (Segment.getLast?_bytes hrange.stop.le_length hclosing).2
  exact ⟨(isBoundary_ascii hsource hstart (by decide)).2,
    (isBoundary_ascii hsource hstop (by decide)).1⟩

/-- Lines of text from a boundary on begin and end at boundaries. -/
theorem isWhole_contentSegments {lines : List Bytes} {offset : Nat} {rest : Bytes}
    (hoffset : IsBoundary source offset) (hlines : ∀ line ∈ lines, IsText line)
    (hdrop : source.drop offset = lines.flatten ++ rest) :
    ∀ segment ∈ contentSegments offset lines, segment.IsWhole source := by
  induction lines generalizing offset with
  | nil => exact List.forall_mem_nil _
  | cons line lines ih =>
      obtain ⟨hline, hlines⟩ := List.forall_mem_cons.mp hlines
      have hdrop : source.drop offset = line ++ (lines.flatten ++ rest) := by
        rw [hdrop, List.flatten_cons, List.append_assoc]
      have hnext : IsBoundary source (offset + line.length) := hoffset.add hdrop hline
      have hlater := ih hnext hlines (by rw [← List.drop_drop, hdrop, List.drop_left])
      rw [contentSegments]
      split
      · exact hlater
      · -- The line ends in front of its trailing blanks.
        have htext : IsText (trimBytesEnd line) :=
          hline.dropTrailing fun _ => ascii_of_isBlankByte
        obtain ⟨back, hsplit, -⟩ := exists_dropTrailing_append isBlankByte line
        have hsource : source.drop offset =
            trimBytesEnd line ++ (back ++ (lines.flatten ++ rest)) := by
          rw [hdrop, ← List.append_assoc (trimBytesEnd line), trimBytesEnd, ← hsplit]
        exact List.forall_mem_cons.mpr ⟨⟨hoffset, hoffset.add hsource htext⟩, hlater⟩

/-- A line without its indentation. -/
theorem isWhole_withoutIndent {line : Segment} (hline : line.IsWhole source) (isFirst : Bool) :
    (withoutIndent source isFirst line).IsWhole source := by
  let isIndent := if isFirst then isSpace else isQuoteSpace
  have hindent : IsText ((line.bytes source).takeWhile isIndent) := by
    apply isText_of_ascii
    apply ascii_takeWhile
    intro byte hbyte
    cases isFirst with
    | true => exact ascii_of_isSpace hbyte
    | false => exact ascii_of_isQuoteSpace hbyte
  have hbytes : line.bytes source =
      (line.bytes source).takeWhile isIndent ++ [] ++ (line.bytes source).dropWhile isIndent := by
    rw [List.append_nil, List.takeWhile_append_dropWhile]
  exact ⟨(hline.inner hbytes hindent (isText_encode [])).start, hline.stop⟩

/-- What stands in front of the trailing elements that satisfy `p`. -/
theorem take_length_sub_eq_dropTrailing {α : Type} (p : α → Bool) (xs : List α) :
    xs.take (xs.length - (xs.reverse.takeWhile p).length) = dropTrailing p xs := by
  have hsplit : xs.reverse = xs.reverse.takeWhile p ++ (dropTrailing p xs).reverse := by
    rw [dropTrailing, List.reverse_reverse, List.takeWhile_append_dropWhile]
  have hlength := congrArg List.length hsplit
  rw [List.length_reverse, List.length_append, List.length_reverse] at hlength
  have hxs : xs = dropTrailing p xs ++ (xs.reverse.takeWhile p).reverse := by
    rw [dropTrailing, ← List.reverse_append, List.takeWhile_append_dropWhile, List.reverse_reverse]
  rw [hlength, Nat.add_sub_cancel_left]
  conv => lhs; arg 2; rw [hxs]
  rw [List.take_left]

/-- What is not text between number signs are spaces, number signs and blanks. -/
theorem exists_of_atxContent {line segment : Segment}
    (hsome : atxContent? source line = some segment) : ∃ front text back,
      line.bytes source = front ++ text ++ back ∧ (∀ byte ∈ front, byte.toNat < 0x80) ∧
      (∀ byte ∈ back, byte.toNat < 0x80) ∧
      segment = ⟨line.start + front.length, line.start + front.length + text.length⟩ := by
  let afterIndent := (line.bytes source).dropWhile (· == 0x20)
  let afterSigns := afterIndent.dropWhile (· == 0x23)
  let content := afterSigns.dropWhile isSpace
  let unclosed := dropTrailing (· == 0x23) content
  let chosen := if unclosed.getLast?.all isSpace then unclosed else content
  have ascii_space : ∀ byte : UInt8, byte == 0x20 → byte.toNat < 0x80 := by simp +contextual
  have ascii_sign : ∀ byte : UInt8, byte == 0x23 → byte.toNat < 0x80 := by simp +contextual
  obtain ⟨front, hfront, ascii_front⟩ : ∃ front, line.bytes source = front ++ content ∧
      ∀ byte ∈ front, byte.toNat < 0x80 := by
    refine ⟨(line.bytes source).takeWhile (· == 0x20) ++
      (afterIndent.takeWhile (· == 0x23) ++ afterSigns.takeWhile isSpace), ?_, ?_⟩
    · simp only [content, afterSigns, afterIndent, List.append_assoc,
        List.takeWhile_append_dropWhile]
    · simp only [List.forall_mem_append]
      exact ⟨ascii_takeWhile ascii_space _, ascii_takeWhile ascii_sign _,
        ascii_takeWhile (fun _ => ascii_of_isSpace) _⟩
  obtain ⟨signs, hsigns, ascii_signs⟩ : ∃ signs, content = chosen ++ signs ∧
      ∀ byte ∈ signs, byte.toNat < 0x80 := by
    by_cases hclosed : unclosed.getLast?.all isSpace
    · rw [show chosen = unclosed from if_pos hclosed]
      obtain ⟨signs, hsplit, hsigns⟩ := exists_dropTrailing_append (· == 0x23) content
      exact ⟨signs, hsplit, fun byte hbyte => ascii_sign byte (hsigns byte hbyte)⟩
    · rw [show chosen = content from if_neg hclosed]
      exact ⟨[], (List.append_nil content).symm, List.forall_mem_nil _⟩
  obtain ⟨blanks, hblanks, hblank⟩ := exists_dropTrailing_append isBlankByte chosen
  refine ⟨front, trimBytesEnd chosen, blanks ++ signs, ?_, ascii_front, ?_, ?_⟩
  · rw [hfront, hsigns, List.append_assoc, ← List.append_assoc _ blanks, trimBytesEnd, ← hblanks]
  · rw [List.forall_mem_append]
    exact ⟨fun byte hbyte => ascii_of_isBlankByte (hblank byte hbyte), ascii_signs⟩
  · have hlength : (line.bytes source).length - content.length = front.length := by
      rw [hfront, List.length_append, Nat.add_sub_cancel]
    simp only [atxContent?, take_length_sub_eq_dropTrailing] at hsome
    obtain ⟨-, hsome⟩ := Option.ite_none_left_eq_some.mp hsome
    rw [← hlength]
    exact (Option.some.inj hsome).symm

/-- The content of a heading is parted off at number signs and blanks. -/
theorem isWhole_atxContent {line segment : Segment} (hline : line.IsWhole source)
    (hsome : atxContent? source line = some segment) : segment.IsWhole source := by
  obtain ⟨front, text, back, hbytes, hfront, hback, rfl⟩ := exists_of_atxContent hsome
  have hwhole := hline.isText_bytes
  rw [hbytes] at hwhole
  exact hline.inner hbytes (isText_of_ascii hfront)
    ((hwhole.before (isText_of_ascii hback)).behind (isText_of_ascii hfront))

/-- The content lines of a heading begin and end at boundaries. -/
theorem exists_headingLines {range : Segment} (hrange : range.IsWhole source)
    (hle : range.start ≤ range.stop) :
    ∃ lines, headingLines? source range = some lines ∧
      ∀ line ∈ lines, line.IsWhole source := by
  have hslice : slice? source range = some (range.bytes source) :=
    if_pos ⟨hle, hrange.stop.le_length⟩
  have hdrop : source.drop range.start =
      (cutAfter (· == newline) (range.bytes source)).flatten ++
        (source.drop range.start).drop range.length := by
    rw [flatten_cutAfter, Segment.bytes, List.take_append_drop]
  have hsegments :=
    isWhole_contentSegments hrange.start hrange.isText_bytes.cutAfter hdrop
  rw [headingLines?, hslice]
  refine ⟨_, rfl, ?_⟩
  dsimp only
  split
  · exact List.forall_mem_nil _
  · next first rest hcut =>
      rw [hcut] at hsegments
      obtain ⟨hfirst, hrest⟩ := List.forall_mem_cons.mp hsegments
      split
      · refine List.forall_mem_cons.mpr ⟨isWhole_withoutIndent hfirst true, fun line hline => ?_⟩
        obtain ⟨indented, hindented, rfl⟩ := List.mem_map.mp hline
        exact isWhole_withoutIndent (hrest indented (List.dropLast_subset rest hindented)) false
      · exact fun line hline => isWhole_atxContent hfirst (Option.mem_toList.mp hline)

end MarkdownFormat.Spelling
