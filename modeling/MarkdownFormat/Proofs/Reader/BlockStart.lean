/-
# Lines that start a block

The first characters of a line make it the start of a block quote, an item, a heading, a
code fence or a thematic break, or leave it a line of text. `StartsBlock` gives these starts
as a grammar of characters. The reader asks for them one after the other, by columns and by
counts, and `startsBlock_iff` says that it finds them in the lines of the grammar.
-/

import MarkdownFormat.Proofs.Reader.RuleLine

namespace MarkdownFormat

namespace Opening

/-- Some text, the rest of a line up to its end, starts a block that is no paragraph. -/
inductive StartsBlock : List Char → Prop
  | quote (rest : List Char) : StartsBlock ('>' :: rest)
  | bullet {bullet : Char} {rest : List Char} (hbullet : bullet ∈ ['-', '+', '*'])
      (hgap : rest.head?.all isGap) : StartsBlock (bullet :: rest)
  | number {digits rest : List Char} {sign : Char} (hsome : digits ≠ [])
      (hcount : digits.length ≤ 9) (hdigits : ∀ c ∈ digits, c.isDigit) (hsign : sign ∈ ['.', ')'])
      (hgap : rest.head?.all isGap) : StartsBlock (digits ++ sign :: rest)
  | heading {level : Nat} {rest : List Char} (hpos : 1 ≤ level) (hlevel : level ≤ 6)
      (hgap : rest.head?.all isGap) : StartsBlock (List.replicate level '#' ++ rest)
  | tildes {count : Nat} (hcount : 3 ≤ count) (rest : List Char) :
      StartsBlock (List.replicate count '~' ++ rest)
  | backticks {count : Nat} {rest : List Char} (hcount : 3 ≤ count) (hrest : '\x60' ∉ rest) :
      StartsBlock (List.replicate count '\x60' ++ rest)
  | rule {mark : Char} {rest : List Char} (hmark : mark ∈ ['-', '*', '_'])
      (hrest : ∀ c ∈ rest, c = mark ∨ isGap c) (hcount : 2 ≤ rest.count mark) :
      StartsBlock (mark :: rest)

/-- Whether a character can be the first of a block that is no paragraph. -/
def isBlockSign (c : Char) : Bool :=
  ['>', '-', '+', '*', '#', '~', '\x60', '_'].contains c || c.isDigit

/-- A line starts a block that is no paragraph, behind up to three spaces. -/
def LineStartsBlock (text : List Char) : Prop :=
  ∃ indent ≤ 3, ∃ rest, text = List.replicate indent ' ' ++ rest ∧ StartsBlock rest

/-- Whether the reader finds the start of a block quote, a heading, a code fence, a thematic
break or an item. -/
def startsBlock (cursor : Cursor) : Bool :=
  let text := cursor.skipAll.rest
  cursor.indent ≤ 3 && ((afterQuoteMarker? cursor).isSome || (heading? text).isSome ||
    (fence? text).isSome || isRule text || (item? cursor).isSome)

end Opening

namespace Chars

/-- A space is dropped. -/
theorem dropSpaces_cons_of_space {c : SourceChar} (hspace : isSpaceChar c.char) (rest : Chars) :
    dropSpaces (c :: rest) = dropSpaces rest :=
  List.dropWhile_cons_of_pos hspace

/-- Nothing is dropped before another character. -/
theorem dropSpaces_cons_of_not {c : SourceChar} (hspace : isSpaceChar c.char = false)
    (rest : Chars) : dropSpaces (c :: rest) = c :: rest :=
  List.dropWhile_cons_of_neg (by simp [hspace])

/-- What is left starts with no space. -/
theorem not_isSpaceChar_dropSpaces (chars : Chars) :
    ∀ c ∈ chars.dropSpaces.text.head?, isSpaceChar c = false := by
  intro c hc
  have hfirst := List.head?_dropWhile_not (fun c : SourceChar => isSpaceChar c.char) chars
  rw [text, List.head?_map] at hc
  obtain ⟨first, hhead, rfl⟩ := Option.map_eq_some_iff.mp hc
  rwa [← dropSpaces, hhead] at hfirst

end Chars

namespace Cursor

/-- Every character takes a column. -/
theorem columnsOf_pos (column : Nat) (c : Char) : 0 < columnsOf column c := by
  rw [columnsOf]
  split <;> omega

/-- A space takes columns of the indent. -/
theorem indentFrom_cons_of_space {c : SourceChar} (hspace : isSpaceChar c.char) (column : Nat)
    (rest : Chars) : indentFrom column (c :: rest) =
      columnsOf column c.char + indentFrom (column + columnsOf column c.char) rest :=
  if_pos hspace

/-- The indent ends at any other character. -/
theorem indentFrom_cons_of_not {c : SourceChar} (hspace : isSpaceChar c.char = false)
    (column : Nat) (rest : Chars) : indentFrom column (c :: rest) = 0 :=
  if_neg (by simp [hspace])

/-- Moving over all columns of indentation moves over all spaces and tabs. -/
theorem skipFrom_indentFrom (column : Nat) (chars : Chars) :
    (skipFrom column (indentFrom column chars) chars).rest = chars.dropSpaces := by
  induction chars generalizing column with
  | nil => rfl
  | cons c rest ih =>
      cases hspace : isSpaceChar c.char with
      | true =>
          have hmoves : (decide (columnsOf column c.char +
              indentFrom (column + columnsOf column c.char) rest = 0) ||
                !isSpaceChar c.char) = false := by
            have hpos := columnsOf_pos column c.char
            rw [hspace, Bool.not_true, Bool.or_false, decide_eq_false_iff_not]
            omega
          rw [indentFrom_cons_of_space hspace, Chars.dropSpaces_cons_of_space hspace, skipFrom,
            hmoves]
          simp only [Bool.false_eq_true, if_false, if_pos (Nat.le_add_right _ _),
            Nat.add_sub_cancel_left]
          exact ih _
      | false =>
          rw [indentFrom_cons_of_not hspace, Chars.dropSpaces_cons_of_not hspace]
          rfl

/-- Skipping all spaces of a line drops them. -/
theorem rest_skipAll_ofLine (line : Chars) : (ofLine line).skipAll.rest = line.dropSpaces := by
  have hindent : (ofLine line).indent = indentFrom 0 line := Nat.zero_add _
  rw [skipAll, skip, hindent]
  split
  · next hnone =>
      cases line with
      | nil => rfl
      | cons c rest =>
          cases hspace : isSpaceChar c.char with
          | true =>
              have hpos := columnsOf_pos 0 c.char
              have howed : (ofLine (c :: rest)).owed = 0 := rfl
              rw [indentFrom_cons_of_space hspace, howed] at hnone
              omega
          | false => exact (Chars.dropSpaces_cons_of_not hspace rest).symm
  · exact skipFrom_indentFrom 0 line

/-- Within the first four columns, indentation is made of spaces. -/
theorem text_eq_of_indentFrom {column : Nat} {chars : Chars}
    (hindent : column + indentFrom column chars ≤ 3) :
    chars.text = List.replicate (indentFrom column chars) ' ' ++ chars.dropSpaces.text := by
  induction chars generalizing column with
  | nil => rfl
  | cons c rest ih =>
      cases hspace : isSpaceChar c.char with
      | true =>
          rw [indentFrom_cons_of_space hspace] at hindent ⊢
          -- A tab would reach to the fourth column.
          have hblank : c.char = ' ' := by
            have hkinds : c.char = ' ' ∨ c.char = '\t' := by simpa [isSpaceChar] using hspace
            refine hkinds.resolve_right fun htab => ?_
            rw [columnsOf, if_pos htab] at hindent
            omega
          have hone : columnsOf column c.char = 1 := by
            rw [hblank]
            rfl
          rw [hone] at hindent ⊢
          have hrest := @ih (column + 1) (by omega)
          rw [Chars.dropSpaces_cons_of_space hspace, Nat.add_comm, List.replicate_succ,
            List.cons_append, ← hrest, ← hblank]
          rfl
      | false =>
          rw [indentFrom_cons_of_not hspace, Chars.dropSpaces_cons_of_not hspace]
          rfl

/-- Spaces before another character are as many columns. -/
theorem indentFrom_of_text {count column : Nat} {chars : Chars} {rest : List Char}
    (htext : chars.text = List.replicate count ' ' ++ rest)
    (hrest : ∀ c ∈ rest.head?, isSpaceChar c = false) :
    indentFrom column chars = count ∧ chars.dropSpaces.text = rest := by
  induction count generalizing column chars with
  | zero =>
      rw [List.replicate_zero, List.nil_append] at htext
      subst htext
      cases chars with
      | nil => exact ⟨rfl, rfl⟩
      | cons c chars =>
          have hspace : isSpaceChar c.char = false := hrest c.char rfl
          rw [indentFrom_cons_of_not hspace, Chars.dropSpaces_cons_of_not hspace]
          exact ⟨rfl, rfl⟩
  | succ count ih =>
      cases chars with
      | nil => cases htext
      | cons c chars =>
          obtain ⟨hc, hchars⟩ := List.cons.inj htext
          have hblank : c.char = ' ' := hc
          have hspace : isSpaceChar c.char := by
            rw [hblank]
            rfl
          have hone : columnsOf column c.char = 1 := by
            rw [hblank]
            rfl
          obtain ⟨hindent, hdropped⟩ := @ih (column + 1) chars hchars
          rw [indentFrom_cons_of_space hspace, hone, hindent,
            Chars.dropSpaces_cons_of_space hspace]
          exact ⟨Nat.add_comm _ _, hdropped⟩

end Cursor

namespace Opening

variable {line : Chars}

/-- The length of a run is told by the characters alone. -/
theorem runLength_eq (c : Char) (chars : Chars) :
    runLength c chars = (chars.text.takeWhile (· = c)).length := by
  rw [runLength, Chars.text, List.takeWhile_map, List.length_map]
  rfl

/-- So is the character at a place. -/
theorem peek_drop (chars : Chars) (count : Nat) :
    Chars.peek (chars.drop count) = (chars.text.drop count).head? := by
  rw [Chars.peek, Chars.text, ← List.map_drop, List.head?_map]

/-- Some text starts with the longest run of a character. -/
theorem eq_replicate_append_drop (c : Char) (text : List Char) :
    text = List.replicate (text.takeWhile (· = c)).length c ++
      text.drop (text.takeWhile (· = c)).length := by
  have hrun : text.takeWhile (· = c) = List.replicate (text.takeWhile (· = c)).length c :=
    List.eq_replicate_of_mem fun d hd => by simpa using List.mem_takeWhile_imp hd
  rw [← hrun, drop_length_takeWhile, List.takeWhile_append_dropWhile]

/-- A run that nothing continues is the longest one. -/
theorem takeWhile_replicate_append {c : Char} {rest : List Char}
    (hrest : ∀ d ∈ rest.head?, d ≠ c) (count : Nat) :
    (List.replicate count c ++ rest).takeWhile (· = c) = List.replicate count c := by
  have hall : ∀ d ∈ List.replicate count c, decide (d = c) = true := by simp
  rw [List.takeWhile_append_of_pos hall,
    takeWhile_eq_nil (by simpa using hrest), List.append_nil]

/-- What is not a gap does not stand where a gap has to. -/
theorem ne_of_all_isGap {c : Char} (hc : isGap c = false) {rest : List Char}
    (hgap : rest.head?.all isGap) : ∀ d ∈ rest.head?, d ≠ c := by
  rintro d hd rfl
  rw [Option.mem_def.mp hd, Option.all_some, hc] at hgap
  cases hgap

/-- A quote starts with its mark, not too far in. -/
theorem afterQuoteMarker?_isSome_iff {cursor : Cursor} (hindent : cursor.indent ≤ 3) :
    (afterQuoteMarker? cursor).isSome ↔ ∃ rest, cursor.skipAll.rest.text = '>' :: rest := by
  have hpeek : cursor.skipAll.peek = cursor.skipAll.rest.text.head? := List.head?_map.symm
  rw [afterQuoteMarker?, if_pos hindent]
  dsimp only
  rw [hpeek, ← List.head?_eq_some_iff]
  split
  · next hmarker => exact iff_of_true rfl hmarker
  · next hmarker => exact iff_of_false Bool.false_ne_true hmarker

/-- The number signs of a heading are followed by a gap. -/
theorem heading?_isSome_iff : (heading? line).isSome ↔
    ∃ level rest, 1 ≤ level ∧ level ≤ 6 ∧ rest.head?.all isGap ∧
      line.text = List.replicate level '#' ++ rest := by
  have hheading : (heading? line).isSome ↔ 1 ≤ runLength '#' line ∧ runLength '#' line ≤ 6 ∧
      (line.text.drop (runLength '#' line)).head?.all isGap := by
    rw [heading?, ← peek_drop]
    simp [and_assoc]
  rw [hheading, runLength_eq]
  constructor
  · rintro ⟨hpos, hlevel, hgap⟩
    exact ⟨_, _, hpos, hlevel, hgap, eq_replicate_append_drop '#' line.text⟩
  · rintro ⟨level, rest, hpos, hlevel, hgap, htext⟩
    rw [htext, takeWhile_replicate_append (ne_of_all_isGap rfl hgap), List.length_replicate,
      List.drop_left' (List.length_replicate)]
    exact ⟨hpos, hlevel, hgap⟩

/-- Cutting blanks off some text takes no backtick away. -/
theorem any_trim_backtick (chars : Chars) :
    (chars.trim.any fun c => c.char = '\x60') ↔ '\x60' ∈ chars.text := by
  have hnone : ∀ blanks : Chars, (∀ c ∈ blanks, isGap c.char) →
      (blanks.any fun c => c.char = '\x60') = false := by
    intro blanks hblanks
    rw [List.any_eq_false]
    intro c hc hbacktick
    have hgap := hblanks c hc
    rw [of_decide_eq_true hbacktick] at hgap
    cases hgap
  obtain ⟨back, hback, hbackGaps⟩ :=
    exists_dropTrailing_append (fun c : SourceChar => isGap c.char) chars.dropGaps
  have hfront : ∀ c ∈ chars.takeWhile fun c => isGap c.char, isGap c.char :=
    fun c hc => List.mem_takeWhile_imp (p := fun c : SourceChar => isGap c.char) hc
  have hparts : chars = (chars.takeWhile fun c => isGap c.char) ++ (chars.trim ++ back) := by
    rw [Chars.trim, Chars.trimEnd, ← hback, Chars.dropGaps, List.takeWhile_append_dropWhile]
  have hall : (chars.any fun c => c.char = '\x60') = chars.trim.any fun c => c.char = '\x60' := by
    rw [congrArg (List.any · _) hparts, List.any_append, List.any_append, hnone _ hfront,
      hnone back hbackGaps, Bool.false_or, Bool.or_false]
  rw [← hall, List.any_eq_true, Chars.text, List.mem_map]
  simp

/-- A fence of backticks has none behind it. -/
theorem fence?_isSome_iff : (fence? line).isSome ↔ ∃ count rest, 3 ≤ count ∧
    (line.text = List.replicate count '~' ++ rest ∨
      line.text = List.replicate count '\x60' ++ rest ∧ '\x60' ∉ rest) := by
  cases line with
  | nil =>
      refine iff_of_false nofun ?_
      rintro ⟨count, rest, hcount, htext | ⟨htext, -⟩⟩ <;>
      · have hlength := congrArg List.length htext
        simp [Chars.text] at hlength
        omega
  | cons c later =>
      have hfence : (fence? (c :: later)).isSome ↔ 3 ≤ runLength c.char (c :: later) ∧
          (c.char = '~' ∨ c.char = '\x60' ∧
            '\x60' ∉ (Chars.text (c :: later)).drop (runLength c.char (c :: later))) := by
        have hinfo := any_trim_backtick ((c :: later).drop (runLength c.char (c :: later)))
        rw [Chars.text, List.map_drop, ← Chars.text] at hinfo
        rw [fence?, ← hinfo]
        simp
      have hfirst : ∀ {mark : Char} {count : Nat} {rest : List Char}, 3 ≤ count →
          Chars.text (c :: later) = List.replicate count mark ++ rest → c.char = mark := by
        intro mark count rest hcount htext
        obtain ⟨count, rfl⟩ := Nat.exists_eq_add_of_le' hcount
        exact (List.cons.inj htext).1
      rw [hfence, runLength_eq]
      have hsplit := eq_replicate_append_drop c.char (Chars.text (c :: later))
      constructor
      · rintro ⟨hcount, htilde | ⟨hbacktick, hnone⟩⟩
        · rw [htilde] at hsplit hcount
          exact ⟨_, _, hcount, .inl hsplit⟩
        · rw [hbacktick] at hsplit hcount hnone
          exact ⟨_, _, hcount, .inr ⟨hsplit, hnone⟩⟩
      · rintro ⟨count, rest, hcount, htext | ⟨htext, hnone⟩⟩
        · have hc := hfirst hcount htext
          refine ⟨?_, .inl hc⟩
          rw [htext, hc, List.takeWhile_append_of_pos (by simp), List.length_append,
            List.length_replicate]
          exact Nat.le_add_right_of_le hcount
        · have hc := hfirst hcount htext
          have hhead : ∀ d ∈ rest.head?, d ≠ '\x60' := by
            rintro d hd rfl
            exact hnone (List.mem_of_mem_head? hd)
          rw [htext, hc, takeWhile_replicate_append hhead, List.length_replicate,
            List.drop_left' List.length_replicate]
          exact ⟨hcount, .inr ⟨rfl, hnone⟩⟩

/-- A thematic break starts with one of its marks. -/
theorem isRule_iff_cons (hhead : isRule line → ∀ c ∈ line.text.head?, isGap c = false) :
    isRule line ↔ ∃ mark rest, mark ∈ ['-', '*', '_'] ∧ (∀ c ∈ rest, c = mark ∨ isGap c) ∧
      2 ≤ rest.count mark ∧ line.text = mark :: rest := by
  constructor
  · intro hrule
    obtain ⟨mark, hmark, hchars, hcount⟩ := isRule_iff.mp hrule
    have hhead := hhead hrule
    cases htext : line.text with
    | nil => simp [htext] at hcount
    | cons c rest =>
        rw [htext] at hchars hcount hhead
        obtain ⟨hc, hrest⟩ := List.forall_mem_cons.mp hchars
        have hsame : c = mark := hc.resolve_right (by simp [hhead c rfl])
        subst hsame
        rw [List.count_cons_self] at hcount
        exact ⟨c, rest, hmark, hrest, Nat.le_of_succ_le_succ hcount, rfl⟩
  · rintro ⟨mark, rest, hmark, hrest, hcount, htext⟩
    rw [isRule_iff, htext]
    refine ⟨mark, hmark, List.forall_mem_cons.mpr ⟨.inl rfl, hrest⟩, ?_⟩
    rw [List.count_cons_self]
    exact Nat.succ_le_succ hcount

/-- What is found under a condition and filtered is found under both. -/
theorem isSome_filter_ite {α : Type} (p : α → Bool) (test : Prop) [Decidable test] (a : α) :
    ((if test then some a else none).filter p).isSome ↔ test ∧ p a := by
  split
  · next htest => simp [htest]
  · next htest => simp [htest]

/-- What stands behind some digits makes them a list marker, or stands alone as one. -/
theorem listMarker?_append {digits behind : Chars} (hdigits : ∀ c ∈ digits, c.char.isDigit)
    (hbehind : ∀ c ∈ behind.head?, c.char.isDigit = false) :
    (listMarker? (digits ++ behind)).isSome ↔ ∃ sign rest, behind = sign :: rest ∧
      (Chars.peek rest).all isGap ∧ (digits = [] ∧ sign.char ∈ ['-', '+', '*'] ∨
        digits ≠ [] ∧ digits.length ≤ 9 ∧ sign.char ∈ ['.', ')']) := by
  have htaken : (digits ++ behind).takeWhile (fun c => c.char.isDigit) = digits := by
    rw [List.takeWhile_append_of_pos hdigits, takeWhile_eq_nil hbehind, List.append_nil]
  rw [listMarker?, htaken]
  dsimp only
  rw [List.drop_left]
  cases behind with
  | nil => simp
  | cons sign rest =>
      have hdrop : (digits ++ sign :: rest).drop (digits.length + 1) = rest := by
        rw [List.append_cons, List.drop_left' (by simp)]
      simp only [List.cons.injEq, and_assoc, exists_and_left, exists_eq_left']
      by_cases hnone : digits = []
      · subst hnone
        rw [if_pos rfl, isSome_filter_ite, and_comm]
        simp [or_assoc]
      · rw [if_neg hnone, isSome_filter_ite, hdrop, and_comm]
        simp [hnone]

/-- Bullets and what follows a number are no digits. -/
theorem not_isDigit_of_mem : ∀ c ∈ ['-', '+', '*'] ++ ['.', ')'], c.isDigit = false := by
  simp only [List.cons_append, List.nil_append, List.forall_mem_cons, List.not_mem_nil,
    false_implies, implies_true, and_true]
  decide

/-- The marker of an item is a bullet or a number with a sign behind it, and a gap follows. -/
theorem listMarker?_isSome_iff : (listMarker? line).isSome ↔
    (∃ bullet rest, bullet ∈ ['-', '+', '*'] ∧ rest.head?.all isGap ∧
      line.text = bullet :: rest) ∨
    ∃ digits sign rest, digits ≠ [] ∧ digits.length ≤ 9 ∧ (∀ c ∈ digits, c.isDigit) ∧
      sign ∈ ['.', ')'] ∧ rest.head?.all isGap ∧ line.text = digits ++ sign :: rest := by
  have hpeek : ∀ rest : Chars, Chars.peek rest = rest.text.head? :=
    fun rest => List.head?_map.symm
  constructor
  · intro hsome
    have hsplit : line = (line.takeWhile fun c => c.char.isDigit) ++
        line.dropWhile fun c => c.char.isDigit := List.takeWhile_append_dropWhile.symm
    have hdigits : ∀ c ∈ line.takeWhile fun c => c.char.isDigit, c.char.isDigit :=
      fun c hc => List.mem_takeWhile_imp (p := fun c : SourceChar => c.char.isDigit) hc
    have hbehind : ∀ c ∈ (line.dropWhile fun c => c.char.isDigit).head?,
        c.char.isDigit = false := by
      intro c hc
      have hfirst := List.head?_dropWhile_not (fun c : SourceChar => c.char.isDigit) line
      rwa [Option.mem_def.mp hc] at hfirst
    generalize line.takeWhile (fun c => c.char.isDigit) = digits at hsplit hdigits
    generalize line.dropWhile (fun c => c.char.isDigit) = behind at hsplit hbehind
    rw [hsplit, listMarker?_append hdigits hbehind] at hsome
    obtain ⟨sign, rest, rfl, hgap, ⟨rfl, hbullet⟩ | ⟨hsome, hcount, hsign⟩⟩ := hsome
    · exact .inl ⟨sign.char, Chars.text rest, hbullet, hpeek rest ▸ hgap,
        congrArg Chars.text hsplit⟩
    · refine .inr ⟨Chars.text digits, sign.char, Chars.text rest, by simpa [Chars.text] using hsome,
        by simpa [Chars.text] using hcount, ?_, hsign, hpeek rest ▸ hgap, ?_⟩
      · exact List.forall_mem_map.mpr hdigits
      · rw [hsplit, Chars.text, List.map_append]
        rfl
  · rintro (⟨bullet, rest, hbullet, hgap, htext⟩ |
      ⟨digits, sign, rest, hsome, hcount, hdigits, hsign, hgap, htext⟩)
    · obtain ⟨first, later, rfl, rfl, rfl⟩ := List.map_eq_cons_iff.mp htext
      have hbehind : first.char.isDigit = false :=
        not_isDigit_of_mem first.char (List.mem_append_left _ hbullet)
      have hmarker := @listMarker?_append [] (first :: later) (List.forall_mem_nil _)
        (by simpa using hbehind)
      exact hmarker.mpr ⟨first, later, rfl, hpeek later ▸ hgap, .inl ⟨rfl, hbullet⟩⟩
    · obtain ⟨front, back, rfl, rfl, hback⟩ := List.map_eq_append_iff.mp htext
      obtain ⟨first, later, rfl, rfl, rfl⟩ := List.map_eq_cons_iff.mp hback
      have hbehind : first.char.isDigit = false :=
        not_isDigit_of_mem first.char (List.mem_append_right _ hsign)
      exact (listMarker?_append (List.forall_mem_map.mp hdigits) (by simpa using hbehind)).mpr
        ⟨first, later, rfl, hpeek later ▸ hgap,
          .inr ⟨by simpa using hsome, by simpa using hcount, hsign⟩⟩

/-- The marks of items and of thematic breaks may start a block. -/
theorem isBlockSign_of_mem : ∀ c ∈ ['-', '+', '*', '_'], isBlockSign c := by
  simp only [List.forall_mem_cons, List.not_mem_nil, false_implies, implies_true, and_true]
  decide

/-- A block starts with a sign. -/
theorem StartsBlock.exists_sign {text : List Char} (hstarts : StartsBlock text) :
    ∃ c rest, text = c :: rest ∧ isBlockSign c := by
  have hruns : ∀ {mark : Char} {count : Nat} (rest : List Char), isBlockSign mark → 1 ≤ count →
      ∃ c later, List.replicate count mark ++ rest = c :: later ∧ isBlockSign c := by
    intro mark count rest hmark hcount
    obtain ⟨count, rfl⟩ := Nat.exists_eq_add_of_le' hcount
    exact ⟨mark, _, rfl, hmark⟩
  cases hstarts with
  | quote rest => exact ⟨'>', rest, rfl, rfl⟩
  | bullet hbullet hgap =>
      exact ⟨_, _, rfl, isBlockSign_of_mem _ (List.mem_append_left ['_'] hbullet)⟩
  | @number digits rest sign hsome hcount hdigits hsign hgap =>
      obtain ⟨first, later, rfl⟩ := List.exists_cons_of_ne_nil hsome
      refine ⟨first, _, rfl, ?_⟩
      rw [isBlockSign, hdigits first List.mem_cons_self, Bool.or_true]
  | heading hpos hlevel hgap => exact hruns _ rfl hpos
  | tildes hcount rest => exact hruns _ rfl (Nat.le_of_succ_le (Nat.le_of_succ_le hcount))
  | backticks hcount hrest => exact hruns _ rfl (Nat.le_of_succ_le (Nat.le_of_succ_le hcount))
  | rule hmark hrest hcount =>
      have hmarks : ['-', '*', '_'] ⊆ ['-', '+', '*', '_'] := by simp
      exact ⟨_, _, rfl, isBlockSign_of_mem _ (hmarks hmark)⟩

/-- No sign is a blank. -/
theorem not_isGap_of_isBlockSign {c : Char} (hsign : isBlockSign c) : isGap c = false := by
  rw [← Bool.not_eq_true]
  intro hgap
  have hkinds : (c = ' ' ∨ c = '\t') ∨ c = '\n' ∨ c = '\r' := by
    simpa [isGap, isSpaceChar, isLineEnd] using hgap
  rcases hkinds with (rfl | rfl) | rfl | rfl <;> exact absurd hsign (by decide)

/-- Without indentation, the reader finds the start of a block where there is one. -/
theorem startsBlock_rest_iff (hhead : isRule line → ∀ c ∈ line.text.head?, isGap c = false) :
    (∃ rest, line.text = '>' :: rest) ∨ (heading? line).isSome ∨ (fence? line).isSome ∨
      isRule line ∨ (listMarker? line).isSome ↔ StartsBlock line.text := by
  rw [heading?_isSome_iff, fence?_isSome_iff, isRule_iff_cons hhead, listMarker?_isSome_iff]
  constructor
  · rintro (⟨rest, htext⟩ | ⟨level, rest, hpos, hlevel, hgap, htext⟩ |
      ⟨count, rest, hcount, htext | ⟨htext, hnone⟩⟩ | ⟨mark, rest, hmark, hrest, hcount, htext⟩ |
      ⟨bullet, rest, hbullet, hgap, htext⟩ |
      ⟨digits, sign, rest, hsome, hcount, hdigits, hsign, hgap, htext⟩) <;> rw [htext]
    · exact .quote rest
    · exact .heading hpos hlevel hgap
    · exact .tildes hcount rest
    · exact .backticks hcount hnone
    · exact .rule hmark hrest hcount
    · exact .bullet hbullet hgap
    · exact .number hsome hcount hdigits hsign hgap
  · generalize line.text = text
    intro hstarts
    cases hstarts with
    | quote rest => exact .inl ⟨rest, rfl⟩
    | heading hpos hlevel hgap => exact .inr (.inl ⟨_, _, hpos, hlevel, hgap, rfl⟩)
    | tildes hcount rest => exact .inr (.inr (.inl ⟨_, rest, hcount, .inl rfl⟩))
    | backticks hcount hrest => exact .inr (.inr (.inl ⟨_, _, hcount, .inr ⟨rfl, hrest⟩⟩))
    | rule hmark hrest hcount =>
        exact .inr (.inr (.inr (.inl ⟨_, _, hmark, hrest, hcount, rfl⟩)))
    | bullet hbullet hgap => exact .inr (.inr (.inr (.inr (.inl ⟨_, _, hbullet, hgap, rfl⟩))))
    | number hsome hcount hdigits hsign hgap =>
        exact .inr (.inr (.inr (.inr (.inr
          ⟨_, _, _, hsome, hcount, hdigits, hsign, hgap, rfl⟩))))

/-- The reader asks for the start of a block behind up to three columns of indentation. -/
theorem startsBlock_iff_rest (cursor : Cursor) : startsBlock cursor ↔ cursor.indent ≤ 3 ∧
    ((∃ rest, cursor.skipAll.rest.text = '>' :: rest) ∨ (heading? cursor.skipAll.rest).isSome ∨
      (fence? cursor.skipAll.rest).isSome ∨ isRule cursor.skipAll.rest ∨
      (listMarker? cursor.skipAll.rest).isSome) := by
  have hitem : (item? cursor).isSome = (listMarker? cursor.skipAll.rest).isSome := by
    rw [item?]
    cases listMarker? cursor.skipAll.rest <;> rfl
  rw [startsBlock, hitem, Bool.and_eq_true, decide_eq_true_eq]
  refine and_congr_right fun hle => ?_
  rw [← afterQuoteMarker?_isSome_iff hle]
  simp only [Bool.or_eq_true, or_assoc]

/-- The reader finds the start of a block in a line exactly if the line has one. -/
theorem startsBlock_iff (hline : ∀ c ∈ line.text.dropLast, isLineEnd c = false) :
    startsBlock (Cursor.ofLine line) ↔ LineStartsBlock line.text := by
  have hindent : (Cursor.ofLine line).indent = Cursor.indentFrom 0 line := Nat.zero_add _
  rw [startsBlock_iff_rest, hindent, Cursor.rest_skipAll_ofLine]
  constructor
  · rintro ⟨hle, hstarts⟩
    have htext : line.text = List.replicate (Cursor.indentFrom 0 line) ' ' ++
        line.dropSpaces.text := Cursor.text_eq_of_indentFrom (by rwa [Nat.zero_add])
    refine ⟨_, hle, _, htext, (startsBlock_rest_iff fun hrule c hc => ?_).mp hstarts⟩
    -- A thematic break goes on behind its first character, so that this one ends no line.
    obtain ⟨rest, hdropped⟩ := List.head?_eq_some_iff.mp (Option.mem_def.mp hc)
    have hmore : rest ≠ [] := by
      rintro rfl
      obtain ⟨mark, -, -, hcount⟩ := isRule_iff.mp hrule
      have hle := (hdropped ▸ hcount).trans List.count_le_length
      exact absurd hle (by simp)
    have hend : isLineEnd c = false := by
      apply hline
      rw [htext, hdropped, List.dropLast_append_cons, List.dropLast_cons_of_ne_nil hmore]
      exact List.mem_append_right _ List.mem_cons_self
    rw [isGap, hend, Bool.or_false]
    exact Chars.not_isSpaceChar_dropSpaces line c hc
  · rintro ⟨indent, hle, rest, htext, hstarts⟩
    obtain ⟨c, later, rfl, hsign⟩ := hstarts.exists_sign
    have hgap := not_isGap_of_isBlockSign hsign
    have hspace : ∀ d ∈ (c :: later).head?, isSpaceChar d = false := by
      rintro _ ⟨⟩
      rw [isGap, Bool.or_eq_false_iff] at hgap
      exact hgap.1
    obtain ⟨hcolumns, hdropped⟩ := @Cursor.indentFrom_of_text indent 0 line _ htext hspace
    rw [hcolumns, startsBlock_rest_iff, hdropped]
    · exact ⟨hle, hstarts⟩
    · rw [hdropped]
      rintro - _ ⟨⟩
      exact hgap

end Opening

/-- A line that starts no block and no HTML and underlines no paragraph is a line of text. -/
theorem BlockReader.openBlocks_of_not_startsBlock (reader : BlockReader) (kept fuel : Nat)
    {cursor : Cursor} (hblank : cursor.isBlank = false) (hindent : cursor.indent ≤ 3)
    (hstarts : Opening.startsBlock cursor = false)
    (hhtml : Html.ending? reader.inParagraph cursor.skipAll.rest = none)
    (hunderline : reader.inParagraph = false ∨ Opening.underline? cursor.skipAll.rest = none) :
    openBlocks (fuel + 1) reader kept cursor = reader.addText kept cursor := by
  rw [Opening.startsBlock, decide_eq_true hindent, Bool.true_and] at hstarts
  simp only [Bool.or_eq_false_iff, Option.isSome_eq_false_iff, Option.isNone_iff_eq_none] at hstarts
  obtain ⟨⟨⟨⟨hquote, hheading⟩, hfence⟩, hrule⟩, hitem⟩ := hstarts
  have hlevel : (if reader.inParagraph && kept = reader.frames.length then
      Opening.underline? cursor.skipAll.rest else none) = none := by
    rcases hunderline with hnone | hnone <;> simp [hnone]
  have hleaf : openLeaf? reader kept (reader.inParagraph && kept = reader.frames.length) cursor =
      none := by
    simp only [openLeaf?, hheading, hfence, hhtml, hlevel, hrule, Option.bind_none,
      Bool.false_eq_true, if_false]
  rw [openBlocks]
  simp only [hblank, Nat.not_le.mpr (Nat.lt_succ_of_le hindent), hquote, hleaf, hitem,
    Option.filter_none, Bool.false_eq_true, if_false]

end MarkdownFormat
