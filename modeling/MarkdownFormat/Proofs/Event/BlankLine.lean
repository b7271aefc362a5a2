/-
# Blank lines by their offsets

Whether a blank line lies between two offsets is found out by cutting what lies between
them at the newlines, where the first piece does not count if a line goes on there. By
offsets it is said without cutting anything: a line starts somewhere behind the first
offset, and nothing but blanks and markers of quotes comes before its newline.
-/

import MarkdownFormat.Event.Spelling
import MarkdownFormat.Proofs.Text.Segment
import MarkdownFormat.Proofs.Writer.Pieces

namespace MarkdownFormat.Spelling

/-- A line starts at an offset. -/
def IsLineStart (source : Bytes) (first : Nat) : Prop :=
  first = 0 ∨ source[first - 1]? = some newline

/-- Nothing but blanks and markers of quotes stands from an offset on up to a newline. -/
def IsBlankLine (source : Bytes) (first last : Nat) : Prop :=
  first ≤ last ∧ source[last]? = some newline ∧
    ∀ k, first ≤ k → k < last → ∃ byte, source[k]? = some byte ∧ isQuoteBlank byte

/-- A blank line lies between two offsets, with its newline. -/
def BlankLineBetween (source : Bytes) (start stop : Nat) : Prop :=
  ∃ first last, start ≤ first ∧ last < stop ∧ IsLineStart source first ∧
    IsBlankLine source first last

variable {front rest source : Bytes} {first last start stop : Nat}

/-- A blank line is one behind other bytes, too. -/
theorem isBlankLine_append_right :
    IsBlankLine (front ++ rest) (front.length + first) (front.length + last) ↔
      IsBlankLine rest first last := by
  have hshift : ∀ k, (front ++ rest)[front.length + k]? = rest[k]? := by
    intro k
    rw [List.getElem?_append_right (Nat.le_add_right _ _), Nat.add_sub_cancel_left]
  simp only [IsBlankLine, hshift, Nat.add_le_add_iff_left]
  refine and_congr_right' (and_congr_right' ⟨fun h k hlow hhigh => ?_, fun h k hlow hhigh => ?_⟩)
  · rw [← hshift]
    exact h _ (by omega) (by omega)
  · obtain ⟨j, rfl⟩ := Nat.exists_eq_add_of_le (Nat.le_of_add_right_le hlow)
    rw [hshift]
    exact h j (by omega) (by omega)

/-- A line without newlines is blank up to the newline behind it, and up to none before. -/
theorem isBlankLine_line (hnone : newline ∉ front) :
    (∃ last, IsBlankLine (front ++ newline :: rest) 0 last) ↔ front.all isQuoteBlank := by
  have hinside : ∀ k (hk : k < front.length), (front ++ newline :: rest)[k]? = some front[k] := by
    intro k hk
    rw [List.getElem?_append_left hk, List.getElem?_eq_getElem hk]
  rw [List.all_eq_true]
  constructor
  · rintro ⟨last, -, hlast, hblank⟩ byte hbyte
    obtain ⟨k, hk, rfl⟩ := List.getElem_of_mem hbyte
    have hlong : front.length ≤ last := by
      refine Nat.not_lt.mp fun hshort => ?_
      rw [hinside last hshort, Option.some.injEq] at hlast
      exact hnone (hlast ▸ List.getElem_mem _)
    obtain ⟨byte, hsome, hquote⟩ := hblank k (Nat.zero_le k) (by omega)
    rw [hinside k hk] at hsome
    cases hsome
    exact hquote
  · intro hblank
    refine ⟨front.length, Nat.zero_le _, by simp, fun k _ hk => ⟨front[k], hinside k hk, ?_⟩⟩
    exact hblank _ (List.getElem_mem hk)

/-- Behind the first line, lines start where they start in the rest. -/
theorem isLineStart_append_right :
    IsLineStart (front ++ newline :: rest) (front.length + 1 + first) ↔ IsLineStart rest first := by
  cases first with
  | zero => simp [IsLineStart]
  | succ first =>
      have hbefore : front.length + 1 + (first + 1) - 1 = front.length + (first + 1) := by omega
      rw [IsLineStart, hbefore, List.getElem?_append_right (by omega)]
      simp [IsLineStart]

/-- The blank lines behind the first line are those of the rest. -/
theorem exists_isBlankLine_behind (hnone : newline ∉ front) :
    (∃ first last, 0 < first ∧ IsLineStart (front ++ newline :: rest) first ∧
        IsBlankLine (front ++ newline :: rest) first last) ↔
      ∃ first last, IsLineStart rest first ∧ IsBlankLine rest first last := by
  have happend : front ++ newline :: rest = (front ++ [newline]) ++ rest := by simp
  have hlength : (front ++ [newline]).length = front.length + 1 := by simp
  constructor
  · rintro ⟨first, last, hpositive, hstart, hblank⟩
    -- The newline before the first offset is none inside of the line.
    have hlong : front.length + 1 ≤ first := by
      refine Nat.not_lt.mp fun hshort => ?_
      rcases hstart with hzero | hbefore
      · omega
      · rw [List.getElem?_append_left (by omega)] at hbefore
        exact hnone (List.mem_of_getElem? hbefore)
    obtain ⟨later, rfl⟩ := Nat.exists_eq_add_of_le hlong
    obtain ⟨latest, rfl⟩ := Nat.exists_eq_add_of_le (Nat.le_of_add_right_le hblank.1)
    refine ⟨later, latest, isLineStart_append_right.mp hstart, ?_⟩
    rwa [happend, ← hlength, isBlankLine_append_right] at hblank
  · rintro ⟨first, last, hstart, hblank⟩
    refine ⟨front.length + 1 + first, front.length + 1 + last, by omega,
      isLineStart_append_right.mpr hstart, ?_⟩
    rwa [happend, ← hlength, isBlankLine_append_right]

/-- A blank line starts at once or later. -/
theorem exists_isBlankLine_iff (bytes : Bytes) :
    (∃ first last, IsLineStart bytes first ∧ IsBlankLine bytes first last) ↔
      (∃ last, IsBlankLine bytes 0 last) ∨
        ∃ first last, 0 < first ∧ IsLineStart bytes first ∧ IsBlankLine bytes first last := by
  constructor
  · rintro ⟨first, last, hstart, hblank⟩
    rcases Nat.eq_zero_or_pos first with rfl | hpositive
    · exact .inl ⟨last, hblank⟩
    · exact .inr ⟨first, last, hpositive, hstart, hblank⟩
  · rintro (⟨last, hblank⟩ | ⟨first, last, -, hstart, hblank⟩)
    · exact ⟨0, last, .inl rfl, hblank⟩
    · exact ⟨first, last, hstart, hblank⟩

/-- The complete lines of a byte string, by their offsets. -/
theorem any_splitLines_iff (bytes : Bytes) :
    (splitLines bytes).1.any (·.all isQuoteBlank) ↔
      ∃ first last, IsLineStart bytes first ∧ IsBlankLine bytes first last := by
  induction hlength : bytes.length using Nat.strongRecOn generalizing bytes with
  | ind length ih =>
      by_cases hmem : newline ∈ bytes
      · obtain ⟨front, rest, rfl, hnone⟩ := List.eq_append_cons_of_mem hmem
        have hrest := ih rest.length (by simp [← hlength]; omega) rest rfl
        rw [splitLines_append_newline hnone, List.any_cons, Bool.or_eq_true, hrest,
          ← isBlankLine_line hnone, ← exists_isBlankLine_behind hnone, exists_isBlankLine_iff]
      · rw [splitLines_of_notMem hmem]
        refine ⟨nofun, ?_⟩
        rintro ⟨first, last, -, -, hlast, -⟩
        exact absurd (List.mem_of_getElem? hlast) hmem

/-- The complete lines of a byte string but the first, by their offsets. -/
theorem any_drop_splitLines_iff (bytes : Bytes) :
    ((splitLines bytes).1.drop 1).any (·.all isQuoteBlank) ↔
      ∃ first last, 0 < first ∧ IsLineStart bytes first ∧ IsBlankLine bytes first last := by
  by_cases hmem : newline ∈ bytes
  · obtain ⟨front, rest, rfl, hnone⟩ := List.eq_append_cons_of_mem hmem
    rw [splitLines_append_newline hnone, exists_isBlankLine_behind hnone]
    exact any_splitLines_iff rest
  · rw [splitLines_of_notMem hmem]
    refine ⟨nofun, ?_⟩
    rintro ⟨first, last, -, -, -, hlast, -⟩
    exact absurd (List.mem_of_getElem? hlast) hmem

/-- A blank line of a segment is one of the source inside of the segment. -/
theorem isBlankLine_bytes :
    IsBlankLine (Segment.bytes source ⟨start, stop⟩) first last ↔
      start + last < stop ∧ IsBlankLine source (start + first) (start + last) := by
  simp only [IsBlankLine, Segment.getElem?_bytes, Nat.add_le_add_iff_left]
  constructor
  · rintro ⟨hle, hlast, hblank⟩
    have hstop : start + last < stop := by
      refine Decidable.byContradiction fun hover => ?_
      rw [if_neg hover] at hlast
      cases hlast
    rw [if_pos hstop] at hlast
    refine ⟨hstop, hle, hlast, fun k hlow hhigh => ?_⟩
    obtain ⟨j, rfl⟩ := Nat.exists_eq_add_of_le (Nat.le_of_add_right_le hlow)
    have hbyte := hblank j (by omega) (by omega)
    rwa [if_pos (by omega)] at hbyte
  · rintro ⟨hstop, hle, hlast, hblank⟩
    refine ⟨hle, by rwa [if_pos hstop], fun k hlow hhigh => ?_⟩
    rw [if_pos (by omega)]
    exact hblank (start + k) (by omega) (by omega)

/-- A blank line that does not start with the first offset lies behind it in the source as
well as in what is cut out. -/
theorem exists_isBlankLine_bytes :
    (∃ first last, 0 < first ∧ IsLineStart (Segment.bytes source ⟨start, stop⟩) first ∧
        IsBlankLine (Segment.bytes source ⟨start, stop⟩) first last) ↔
      ∃ first last, start < first ∧ last < stop ∧ IsLineStart source first ∧
        IsBlankLine source first last := by
  simp only [isBlankLine_bytes]
  constructor
  · rintro ⟨first, last, hpositive, hstart, hstop, hblank⟩
    refine ⟨start + first, start + last, by omega, hstop, .inr ?_, hblank⟩
    rcases hstart with hzero | hbefore
    · omega
    · have hle := hblank.1
      rw [Segment.getElem?_bytes, if_pos (by omega)] at hbefore
      rwa [Nat.add_sub_assoc hpositive]
  · rintro ⟨first, last, hlow, hstop, hstart, hblank⟩
    have hle := hblank.1
    obtain ⟨first, rfl⟩ := Nat.exists_eq_add_of_lt hlow
    obtain ⟨last, rfl⟩ := Nat.exists_eq_add_of_le (show start ≤ last by omega)
    refine ⟨first + 1, last, Nat.succ_pos _, .inr ?_, hstop, hblank⟩
    rcases hstart with hzero | hbefore
    · omega
    · rw [Segment.getElem?_bytes, if_pos (by omega)]
      simpa using hbefore

/-- Cutting what lies between two offsets at its newlines finds a blank line just if there
is one. -/
theorem hasBlankLine_iff (hstop : stop ≤ source.length) :
    hasBlankLine source start stop ↔ BlankLineBetween source start stop := by
  have hsplit : BlankLineBetween source start stop ↔
      (IsLineStart source start ∧ ∃ last, last < stop ∧ IsBlankLine source start last) ∨
        ∃ first last, start < first ∧ last < stop ∧ IsLineStart source first ∧
          IsBlankLine source first last := by
    constructor
    · rintro ⟨first, last, hlow, hhigh, hstart, hblank⟩
      rcases Nat.eq_or_lt_of_le hlow with rfl | hlow
      · exact .inl ⟨hstart, last, hhigh, hblank⟩
      · exact .inr ⟨first, last, hlow, hhigh, hstart, hblank⟩
    · rintro (⟨hstart, last, hhigh, hblank⟩ | ⟨first, last, hlow, hhigh, hstart, hblank⟩)
      · exact ⟨start, last, Nat.le_refl _, hhigh, hstart, hblank⟩
      · exact ⟨first, last, Nat.le_of_lt hlow, hhigh, hstart, hblank⟩
  have hfirst : (∃ last, IsBlankLine (Segment.bytes source ⟨start, stop⟩) 0 last) ↔
      ∃ last, last < stop ∧ IsBlankLine source start last := by
    simp only [isBlankLine_bytes, Nat.add_zero]
    constructor
    · rintro ⟨last, hhigh, hblank⟩
      exact ⟨start + last, hhigh, hblank⟩
    · rintro ⟨last, hhigh, hblank⟩
      obtain ⟨last, rfl⟩ := Nat.exists_eq_add_of_le hblank.1
      exact ⟨last, hhigh, hblank⟩
  by_cases hempty : start < stop
  · rw [hsplit, hasBlankLine]
    simp only [hempty, hstop, decide_true, Bool.true_and]
    by_cases hstart : IsLineStart source start
    · have hdecide : (decide (start = 0) || decide (source[start - 1]? = some newline)) = true := by
        simpa [IsLineStart] using hstart
      rw [if_pos hdecide, any_splitLines_iff, exists_isBlankLine_iff, exists_isBlankLine_bytes,
        hfirst]
      simp [hstart]
    · have hdecide : ¬ (decide (start = 0) || decide (source[start - 1]? = some newline)) = true := by
        simpa [IsLineStart] using hstart
      rw [if_neg hdecide, any_drop_splitLines_iff, exists_isBlankLine_bytes]
      simp [hstart]
  · simp only [hasBlankLine, hempty, decide_false, Bool.false_and, Bool.false_eq_true, false_iff]
    rintro ⟨first, last, hlow, hhigh, -, hblank⟩
    have hle := hblank.1
    omega

end MarkdownFormat.Spelling
