/-
# Bytes between two offsets

The bytes of a segment are those of the source from its first offset on. Segments that
touch can be put together, and what a segment starts or ends with stands in the source
at its offsets.
-/

import MarkdownFormat.Value

namespace MarkdownFormat.Segment

variable {source : Bytes} {range : Segment} {byte : UInt8} {first middle last : Nat}

/-- What lies between two offsets has the bytes of the source up to the second one. -/
theorem getElem?_bytes (source : Bytes) (start stop k : Nat) :
    (Segment.bytes source ⟨start, stop⟩)[k]? =
      if start + k < stop then source[start + k]? else none := by
  rw [Segment.bytes, Segment.length, List.getElem?_take, List.getElem?_drop]
  simp only [Nat.lt_sub_iff_add_lt']

/-- A segment inside of the source has as many bytes as there are offsets in it. -/
theorem length_bytes (hstop : range.stop ≤ source.length) :
    (range.bytes source).length = range.stop - range.start := by
  simp only [Segment.bytes, Segment.length, List.length_take, List.length_drop]
  omega

/-- Segments that touch have the bytes of the segment from the first offset to the last. -/
theorem bytes_append (hfirst : first ≤ middle) (hmiddle : middle ≤ last) :
    Segment.bytes source ⟨first, middle⟩ ++ Segment.bytes source ⟨middle, last⟩ =
      Segment.bytes source ⟨first, last⟩ := by
  have hlength : last - first = (middle - first) + (last - middle) := by omega
  simp only [Segment.bytes, Segment.length]
  rw [hlength, List.take_add, List.drop_drop, Nat.add_sub_cancel' hfirst]

/-- A segment of one offset has the one byte there. -/
theorem bytes_singleton (hbyte : source[first]? = some byte) :
    Segment.bytes source ⟨first, first + 1⟩ = [byte] := by
  obtain ⟨hlt, rfl⟩ := List.getElem?_eq_some_iff.mp hbyte
  rw [Segment.bytes, Segment.length, Nat.add_sub_cancel_left, List.drop_eq_getElem_cons hlt]
  rfl

/-- A segment starts with the byte at its first offset. -/
theorem head?_bytes (hbyte : (range.bytes source).head? = some byte) :
    range.start < range.stop ∧ source[range.start]? = some byte := by
  rw [List.head?_eq_getElem?, getElem?_bytes, Nat.add_zero] at hbyte
  exact Option.ite_none_right_eq_some.mp hbyte

/-- A segment ends with the byte before its last offset. -/
theorem getLast?_bytes (hstop : range.stop ≤ source.length)
    (hbyte : (range.bytes source).getLast? = some byte) :
    range.start < range.stop ∧ source[range.stop - 1]? = some byte := by
  rw [List.getLast?_eq_getElem?, length_bytes hstop, getElem?_bytes] at hbyte
  obtain ⟨hlt, hbyte⟩ := Option.ite_none_right_eq_some.mp hbyte
  have hplace : range.start + (range.stop - range.start - 1) = range.stop - 1 := by omega
  exact ⟨by omega, hplace ▸ hbyte⟩

/-- What stands in the source from an offset on is a segment from there on. -/
theorem bytes_of_drop {start : Nat} {front rest : Bytes}
    (hdrop : source.drop start = front ++ rest) :
    Segment.bytes source ⟨start, start + front.length⟩ = front := by
  rw [Segment.bytes, Segment.length, Nat.add_sub_cancel_left, hdrop, List.take_left]

/-- A segment that starts and ends with different bytes is these with what is between. -/
theorem bytes_between {opening closing : UInt8} (hstop : range.stop ≤ source.length)
    (hfirst : (range.bytes source).head? = some opening)
    (hlast : (range.bytes source).getLast? = some closing) (hne : opening ≠ closing) :
    range.bytes source =
      opening :: (Segment.bytes source ⟨range.start + 1, range.stop - 1⟩ ++ [closing]) := by
  obtain ⟨hlt, hopening⟩ := head?_bytes hfirst
  obtain ⟨-, hlast⟩ := getLast?_bytes hstop hlast
  have hinside : range.start + 1 ≤ range.stop - 1 := by
    have hstart : range.stop - 1 ≠ range.start := by
      intro heq
      rw [heq, hopening, Option.some.injEq] at hlast
      exact hne hlast
    omega
  have hend : range.stop - 1 + 1 = range.stop := by omega
  have hclosing := bytes_singleton hlast
  rw [hend] at hclosing
  rw [← hclosing, bytes_append hinside (Nat.sub_le _ _), ← List.singleton_append,
    ← bytes_singleton hopening, bytes_append (Nat.le_succ _) (by omega)]

end MarkdownFormat.Segment
