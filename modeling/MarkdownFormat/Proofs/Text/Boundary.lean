/-
# Where text can be parted

Text that is parted in front of a byte that begins a character gives text on both sides,
and so does text from which text is taken away at either end. ASCII bytes are characters of
their own, so text can be parted on both sides of each of them: at line ends, around
blanks and behind backslashes and angle brackets.
-/

import Mathlib.Data.List.DropRight
import Mathlib.Data.List.TakeWhile
import MarkdownFormat.Proofs.Text.Utf8
import MarkdownFormat.Proofs.Writer.Pieces
import MarkdownFormat.Value

namespace MarkdownFormat

section Parts

variable {α : Type} {p : α → Bool}

/-- What is dropped at the end all satisfies the condition. -/
theorem exists_dropTrailing_append (p : α → Bool) (xs : List α) :
    ∃ back, xs = dropTrailing p xs ++ back ∧ ∀ x ∈ back, p x := by
  refine ⟨(xs.reverse.takeWhile p).reverse, ?_, fun x hx => ?_⟩
  · rw [dropTrailing, ← List.reverse_append, List.takeWhile_append_dropWhile, List.reverse_reverse]
  · exact List.mem_takeWhile_imp (List.mem_reverse.mp hx)

/-- Dropping at the end is what the library has under another name. -/
theorem dropTrailing_eq_rdropWhile (p : α → Bool) (xs : List α) :
    dropTrailing p xs = xs.rdropWhile p := rfl

/-- Nothing is dropped if the last element stays. -/
theorem dropTrailing_eq_self_iff {xs : List α} :
    dropTrailing p xs = xs ↔ ∀ x ∈ xs.getLast?, p x = false := by
  rw [dropTrailing_eq_rdropWhile, List.rdropWhile_eq_self_iff]
  rcases List.eq_nil_or_concat xs with rfl | ⟨front, last, rfl⟩ <;> simp

/-- A repeated element at the end is the last one. -/
theorem getLast?_append_replicate (front : List α) (x : α) {count : Nat} (hcount : 0 < count) :
    (front ++ List.replicate count x).getLast? = some x := by
  obtain ⟨count, rfl⟩ := Nat.exists_eq_add_one.mpr hcount
  rw [List.replicate_succ', ← List.append_assoc, List.getLast?_concat]

/-- A repeated element that stays keeps all before it. -/
theorem dropTrailing_append_replicate {x : α} (hx : p x = false) (front : List α) {count : Nat}
    (hcount : 0 < count) :
    dropTrailing p (front ++ List.replicate count x) = front ++ List.replicate count x := by
  rw [dropTrailing_eq_self_iff, getLast?_append_replicate front x hcount]
  rintro _ ⟨⟩
  exact hx

/-- Behind the elements that are taken stands what is left when they are dropped. -/
theorem drop_length_takeWhile (p : α → Bool) (xs : List α) :
    xs.drop (xs.takeWhile p).length = xs.dropWhile p := by
  have hsplit : (xs.takeWhile p ++ xs.dropWhile p).drop (xs.takeWhile p).length =
      xs.dropWhile p := List.drop_left
  rwa [List.takeWhile_append_dropWhile] at hsplit

/-- Nothing is dropped if the first element stays. -/
theorem dropWhile_eq_self {xs : List α} (hhead : ∀ x ∈ xs.head?, p x = false) :
    xs.dropWhile p = xs := by
  cases xs with
  | nil => rfl
  | cons x rest => exact List.dropWhile_cons_of_neg (by simp [hhead x rfl])

/-- Nothing is taken if the first element does not satisfy the condition. -/
theorem takeWhile_eq_nil {xs : List α} (hhead : ∀ x ∈ xs.head?, p x = false) :
    xs.takeWhile p = [] := by
  cases xs with
  | nil => rfl
  | cons x rest => exact List.takeWhile_cons_of_neg (by simp [hhead x rfl])

/-- What starts without an element that satisfies `p` stays behind the rest. -/
theorem dropWhile_append_of_eq_self {back : List α} (hback : back.dropWhile p = back)
    (front : List α) : (front ++ back).dropWhile p = front.dropWhile p ++ back := by
  rw [List.dropWhile_append]
  split
  · next hempty => rw [List.isEmpty_iff.mp hempty, hback, List.nil_append]
  · rfl

/-- Nothing of the end is left if all of it satisfies `p`. -/
theorem dropTrailing_append_of_forall {back : List α} (hback : ∀ x ∈ back, p x)
    (front : List α) : dropTrailing p (front ++ back) = dropTrailing p front := by
  have hreverse : ∀ x ∈ back.reverse, p x := fun x hx => hback x (List.mem_reverse.mp hx)
  rw [dropTrailing, List.reverse_append, List.dropWhile_append_of_pos hreverse, dropTrailing]

/-- What ends without an element that satisfies `p` stays in front of the rest. -/
theorem dropTrailing_append_of_eq_self {front : List α} (hfront : dropTrailing p front = front)
    (back : List α) : dropTrailing p (front ++ back) = front ++ dropTrailing p back := by
  rw [dropTrailing, List.reverse_append, List.dropWhile_append]
  split
  · next hempty =>
      rw [dropTrailing.eq_1 p back, List.isEmpty_iff.mp hempty, List.reverse_nil, List.append_nil]
      exact hfront
  · rw [List.reverse_append, List.reverse_reverse, dropTrailing]

/-- What is not all cut away loses the same behind something else. -/
theorem dropTrailing_append_of_ne_nil {back : List α} (hsome : dropTrailing p back ≠ [])
    (front : List α) : dropTrailing p (front ++ back) = front ++ dropTrailing p back := by
  have hkept : back.reverse.dropWhile p ≠ [] := mt List.reverse_eq_nil_iff.mpr hsome
  rw [dropTrailing, List.reverse_append, List.dropWhile_append, if_neg (by simpa using hkept),
    List.reverse_append, List.reverse_reverse, dropTrailing]

/-- What is not in a list is not equal to anything in it. -/
theorem beq_eq_false_of_notMem [BEq α] [LawfulBEq α] {x : α} {xs : List α} (hnone : x ∉ xs) :
    ∀ y ∈ xs, (y == x) = false := by
  intro y hy
  rw [beq_eq_false_iff_ne]
  exact fun heq => hnone (heq ▸ hy)

/-- Without a place to cut there is one piece, if any. -/
theorem cutAfter_of_forall_not {xs : List α} (hnone : ∀ x ∈ xs, p x = false) :
    cutAfter p xs = if xs = [] then [] else [xs] := by
  induction xs with
  | nil => rfl
  | cons x rest ih =>
      obtain ⟨hx, hrest⟩ := List.forall_mem_cons.mp hnone
      cases rest <;> simp_all [cutAfter]

/-- The first piece ends at the first place to cut. -/
theorem cutAfter_append_cons {front : List α} {x : α} (hfront : ∀ y ∈ front, p y = false)
    (hx : p x) (rest : List α) :
    cutAfter p (front ++ x :: rest) = (front ++ [x]) :: cutAfter p rest := by
  induction front with
  | nil => simp [cutAfter, hx]
  | cons y front ih =>
      obtain ⟨hy, hfront⟩ := List.forall_mem_cons.mp hfront
      simp [cutAfter, hy, ih hfront]

/-- The pieces together are what was cut. -/
theorem flatten_cutAfter (p : α → Bool) (xs : List α) : (cutAfter p xs).flatten = xs := by
  induction xs with
  | nil => rfl
  | cons x rest ih =>
      rw [cutAfter]
      split
      · simp [ih]
      · split
        · next hparts => simpa [hparts] using ih
        · next hparts => simpa [hparts] using ih

/-- A part has nothing that satisfies `p`, or it has that at its end alone. -/
theorem exists_of_mem_cutAfter {xs part : List α} (hpart : part ∈ cutAfter p xs) :
    ∃ front, (∀ x ∈ front, p x = false) ∧
      (front ≠ [] ∧ part = front ∨ ∃ x, p x ∧ part = front ++ [x]) := by
  induction xs generalizing part with
  | nil => cases hpart
  | cons x rest ih =>
      rw [cutAfter] at hpart
      split at hpart
      case isTrue hx =>
        rcases List.mem_cons.mp hpart with rfl | hpart
        · exact ⟨[], List.forall_mem_nil _, .inr ⟨x, hx, rfl⟩⟩
        · exact ih hpart
      case isFalse hx =>
        rw [Bool.not_eq_true] at hx
        split at hpart
        · rw [List.mem_singleton.mp hpart]
          exact ⟨[x], List.forall_mem_singleton.mpr hx, .inl ⟨List.cons_ne_nil x [], rfl⟩⟩
        · next first parts hparts =>
            rcases List.mem_cons.mp hpart with rfl | hpart
            · obtain ⟨front, hfront, ⟨-, rfl⟩ | ⟨last, hlast, rfl⟩⟩ :=
                ih (by rw [hparts]; exact List.mem_cons_self)
              · exact ⟨x :: first, List.forall_mem_cons.mpr ⟨hx, hfront⟩,
                  .inl ⟨List.cons_ne_nil x first, rfl⟩⟩
              · exact ⟨x :: front, List.forall_mem_cons.mpr ⟨hx, hfront⟩, .inr ⟨last, hlast, rfl⟩⟩
            · exact ih (by rw [hparts]; exact List.mem_cons_of_mem first hpart)

end Parts

namespace Utf8

/-- Only the first byte of a spelling begins a character. -/
theorem Spells.exists_eq_cons {bytes : Bytes} {n : Nat} (hspells : Spells bytes n) :
    ∃ first tails, bytes = first :: tails ∧ ¬ IsTail first ∧ ∀ byte ∈ tails, IsTail byte := by
  have htail : ∀ {first byte : UInt8}, IsSecond first byte → IsTail byte := by
    intro first byte hsecond
    grind [IsSecond, IsTail, leastSecond, greatestSecond]
  cases hspells with
  | one hfirst => exact ⟨_, _, rfl, by grind [IsTail], List.forall_mem_nil _⟩
  | two hfirst hb => exact ⟨_, _, rfl, by grind [IsTail], by simpa using hb⟩
  | three hfirst hb hc =>
      exact ⟨_, _, rfl, by grind [IsTail], by simpa using ⟨htail hb, hc⟩⟩
  | four hfirst hb hc hd =>
      exact ⟨_, _, rfl, by grind [IsTail], by simpa using ⟨htail hb, hc, hd⟩⟩

/-- Whether bytes are those of some text. -/
def IsText (bytes : Bytes) : Prop :=
  ∃ text, bytes = encode text

/-- Bytes can be decoded to see whether they are text. -/
instance (bytes : Bytes) : Decidable (IsText bytes) :=
  match hdecode : decode bytes with
  | .ok text => .isTrue ⟨text, decode_eq_ok.mp hdecode⟩
  | .error _ => .isFalse fun ⟨text, htext⟩ => by
      rw [decode_eq_ok.mpr htext] at hdecode
      cases hdecode

/-- Encoded characters are text. -/
theorem isText_encode (text : List Char) : IsText (encode text) :=
  ⟨text, rfl⟩

/-- ASCII bytes are characters of their own. -/
theorem isText_of_ascii {bytes : Bytes} (hascii : ∀ byte ∈ bytes, byte.toNat < 0x80) :
    IsText bytes := by
  refine ⟨bytes.map fun byte => Char.ofNat byte.toNat, ?_⟩
  induction bytes with
  | nil => rfl
  | cons byte rest ih =>
      obtain ⟨hbyte, hrest⟩ := List.forall_mem_cons.mp hascii
      show byte :: rest = encodeChar (Char.ofNat byte.toNat) ++ encode _
      rw [(Spells.one hbyte).encodeChar_eq, ← ih hrest]
      rfl

namespace IsText

variable {bytes front back : Bytes}

/-- Text behind text is text. -/
theorem append (hfront : IsText front) (hback : IsText back) : IsText (front ++ back) := by
  obtain ⟨first, rfl⟩ := hfront
  obtain ⟨second, rfl⟩ := hback
  exact ⟨first ++ second, (encode_append first second).symm⟩

/-- Texts put together are text. -/
theorem flatten {parts : List Bytes} (hparts : ∀ part ∈ parts, IsText part) :
    IsText parts.flatten := by
  induction parts with
  | nil => exact isText_encode []
  | cons part rest ih =>
      obtain ⟨hpart, hrest⟩ := List.forall_mem_cons.mp hparts
      exact hpart.append (ih hrest)

/-- What stands in front of the first byte of a character is text. -/
theorem before_cons {byte : UInt8} (htext : IsText (front ++ byte :: back))
    (hbyte : ¬ IsTail byte) : IsText front := by
  obtain ⟨text, htext⟩ := htext
  induction text generalizing front with
  | nil => simp [encode] at htext
  | cons c text ih =>
      have hsplit : front ++ byte :: back = encodeChar c ++ encode text := htext
      rcases List.append_eq_append_iff.mp hsplit with ⟨middle, hchar, hrest⟩ |
        ⟨middle, hfront, hrest⟩
      · -- The byte begins a character, so it does not stand inside of this one.
        obtain ⟨first, tails, hcons, -, htails⟩ := (spells_encodeChar c).exists_eq_cons
        rcases front with _ | ⟨start, front⟩
        · exact isText_encode []
        rcases middle with _ | ⟨other, middle⟩
        · rw [List.append_nil] at hchar
          exact ⟨[c], by simpa [encode] using hchar.symm⟩
        · rw [hcons] at hchar
          obtain ⟨-, htail⟩ := List.cons.inj hchar
          obtain ⟨rfl, -⟩ := List.cons.inj hrest
          exact absurd (htails byte (by simp [htail])) hbyte
      · rw [hfront]
        exact .append ⟨[c], by simp [encode]⟩ (ih hrest.symm)

/-- What is left when text is taken away in front is text. -/
theorem behind (htext : IsText (front ++ back)) (hfront : IsText front) : IsText back := by
  obtain ⟨text, htext⟩ := htext
  obtain ⟨first, rfl⟩ := hfront
  induction first generalizing text with
  | nil => exact ⟨text, htext⟩
  | cons c first ih =>
      have hsplit : encodeChar c ++ (encode first ++ back) = encode text := by
        rw [← htext, ← List.append_assoc]
        rfl
      have hpieces := pieces_encodeChar_append c (encode first ++ back)
      rw [hsplit, pieces_encode] at hpieces
      cases text with
      | nil => cases hpieces
      | cons d text =>
          cases (List.cons.inj hpieces).1
          exact ih text (List.append_cancel_left hsplit)

/-- What is left when text is taken away at the end is text. -/
theorem before (htext : IsText (front ++ back)) (hback : IsText back) : IsText front := by
  obtain ⟨last, rfl⟩ := hback
  cases last with
  | nil => simpa [encode] using htext
  | cons c last =>
      obtain ⟨first, tails, hcons, hfirst, -⟩ := (spells_encodeChar c).exists_eq_cons
      have hsplit : IsText (front ++ first :: (tails ++ encode last)) := by
        rw [← List.cons_append, ← hcons]
        exact htext
      exact hsplit.before_cons hfirst

end IsText

/-- A line that is text loses the blanks at its end as such. -/
theorem trimmedLine_encode (text : List Char) :
    trimmedLine (encode text) = encode (MarkdownFormat.dropTrailing isBlank text) := by
  rw [trimmedLine, decode_encode]

/-- An ASCII byte does not go on with a character. -/
theorem not_isTail_of_ascii {byte : UInt8} (hascii : byte.toNat < 0x80) : ¬ IsTail byte :=
  fun htail => absurd htail.1 (by omega)

/-- The newline is an ASCII byte. -/
theorem ascii_newline : newline.toNat < 0x80 := by decide

/-- So it is text alone. -/
theorem isText_newline : IsText [newline] :=
  isText_of_ascii (by simp [ascii_newline])

namespace IsText

variable {bytes front back : Bytes}

/-- Before an ASCII byte a text is text. -/
theorem before_ascii {byte : UInt8} (htext : IsText (front ++ byte :: back))
    (hascii : byte.toNat < 0x80) : IsText front :=
  htext.before_cons (not_isTail_of_ascii hascii)

/-- So it is behind an ASCII byte. -/
theorem behind_ascii {byte : UInt8} (htext : IsText (front ++ byte :: back))
    (hascii : byte.toNat < 0x80) : IsText back := by
  have hbehind : IsText ([byte] ++ back) := htext.behind (htext.before_ascii hascii)
  exact hbehind.behind (isText_of_ascii (by simpa using hascii))

/-- What holds of text without line endings, and of a line and its ending in front of text
that it holds of, holds of all text. -/
@[elab_as_elim]
theorem newline_induction {motive : Bytes → Prop}
    (hlast : ∀ bytes, IsText bytes → newline ∉ bytes → motive bytes)
    (hline : ∀ line rest, IsText line → newline ∉ line → motive rest →
      motive (line ++ newline :: rest))
    (htext : IsText bytes) : motive bytes := by
  induction hlength : bytes.length using Nat.strongRecOn generalizing bytes with
  | ind length ih =>
    by_cases hmem : newline ∈ bytes
    · obtain ⟨line, rest, rfl, hnone⟩ := List.eq_append_cons_of_mem hmem
      have hshorter : rest.length < length := by
        rw [← hlength, List.length_append, List.length_cons]
        omega
      exact hline line rest (htext.before_ascii ascii_newline) hnone
        (ih _ hshorter (htext.behind_ascii ascii_newline) rfl)
    · exact hlast bytes htext hmem

/-- The lines of a text are text. -/
theorem splitLines (htext : IsText bytes) :
    (∀ line ∈ (splitLines bytes).1, IsText line) ∧ IsText (splitLines bytes).2 := by
  refine newline_induction ?_ ?_ htext
  · intro bytes htext hnone
    rw [splitLines_of_notMem hnone]
    exact ⟨List.forall_mem_nil _, htext⟩
  · intro line rest hline hnone ih
    rw [splitLines_append_newline hnone]
    exact ⟨List.forall_mem_cons.mpr ⟨hline, ih.1⟩, ih.2⟩

/-- So each piece of a text that is cut at its newlines is text. -/
theorem cutAfter (htext : IsText bytes) :
    ∀ part ∈ cutAfter (· == newline) bytes, IsText part := by
  refine newline_induction ?_ ?_ htext
  · intro bytes htext hnone
    rw [cutAfter_of_forall_not (beq_eq_false_of_notMem hnone)]
    split
    · exact List.forall_mem_nil _
    · exact List.forall_mem_singleton.mpr htext
  · intro line rest hline hnone ih
    rw [cutAfter_append_cons (beq_eq_false_of_notMem hnone) (beq_self_eq_true newline)]
    exact List.forall_mem_cons.mpr ⟨hline.append isText_newline, ih⟩

/-- Lines of text are text together. -/
theorem joinLines {lines : List Bytes} {tail : Bytes} (hlines : ∀ line ∈ lines, IsText line)
    (htail : IsText tail) : IsText (joinLines lines tail) := by
  rw [MarkdownFormat.joinLines, List.flatMap_def]
  refine .append (.flatten fun part hpart => ?_) htail
  obtain ⟨line, hline, rfl⟩ := List.mem_map.mp hpart
  exact (hlines line hline).append isText_newline

/-- A text without its trailing blanks is text. -/
theorem trimmedLine (htext : IsText bytes) : IsText (trimmedLine bytes) := by
  obtain ⟨text, rfl⟩ := htext
  rw [trimmedLine_encode]
  exact isText_encode _

/-- Dropping ASCII bytes at the end leaves text. -/
theorem dropTrailing {p : UInt8 → Bool} (htext : IsText bytes)
    (hascii : ∀ byte, p byte → byte.toNat < 0x80) : IsText (dropTrailing p bytes) := by
  obtain ⟨back, hsplit, hback⟩ := exists_dropTrailing_append p bytes
  rw [hsplit] at htext
  exact htext.before (isText_of_ascii fun byte hbyte => hascii byte (hback byte hbyte))

end IsText

/-- Different texts have different bytes. -/
theorem encode_injective {first second : List Char} (hsame : encode first = encode second) :
    first = second := by
  have hdecoded := decode_encode first
  rw [hsame, decode_encode] at hdecoded
  exact (Except.ok.inj hdecoded).symm

/-- A line of text stays as it is if it does not end in a blank. -/
theorem trimmedLine_encode_eq_self_iff {text : List Char} :
    trimmedLine (encode text) = encode text ↔ ∀ c ∈ text.getLast?, isBlank c = false := by
  rw [trimmedLine_encode, ← dropTrailing_eq_self_iff]
  exact ⟨encode_injective, congrArg encode⟩

/-- A line that is not text loses only ASCII blanks. -/
theorem trimmedLine_of_not_isText {line : Bytes} (hline : ¬ IsText line) :
    trimmedLine line = trimBytesEnd line := by
  rw [trimmedLine]
  split
  · next text htext => exact absurd ⟨text, decode_eq_ok.mp htext⟩ hline
  · rfl

/-- What is left of a line stands at its start. -/
theorem trimmedLine_prefix (line : Bytes) : trimmedLine line <+: line := by
  by_cases hline : IsText line
  · obtain ⟨text, rfl⟩ := hline
    obtain ⟨back, hsplit, -⟩ := exists_dropTrailing_append isBlank text
    rw [trimmedLine_encode, hsplit, encode_append, ← hsplit]
    exact List.prefix_append _ _
  · rw [trimmedLine_of_not_isText hline]
    exact List.rdropWhile_prefix _ _

/-- A blank byte is a blank character. -/
theorem exists_isBlank_of_isBlankByte {byte : UInt8} (hbyte : isBlankByte byte) :
    ∃ c, [byte] = encode [c] ∧ isBlank c := by
  simp only [isBlankByte, Bool.or_eq_true, beq_iff_eq] at hbyte
  rcases hbyte with (((rfl | rfl) | rfl) | rfl) | rfl
  · exact ⟨' ', by decide, rfl⟩
  · exact ⟨'\t', by decide, rfl⟩
  · exact ⟨'\n', by decide, rfl⟩
  · exact ⟨'\x0C', by decide, rfl⟩
  · exact ⟨'\r', by decide, rfl⟩

/-- Blank bytes are ASCII. -/
theorem ascii_of_isBlankByte {byte : UInt8} (hbyte : isBlankByte byte) : byte.toNat < 0x80 := by
  simp only [isBlankByte, Bool.or_eq_true, beq_iff_eq] at hbyte
  rcases hbyte with (((rfl | rfl) | rfl) | rfl) | rfl <;> decide

/-- A trimmed line does not end with an ASCII blank. -/
theorem not_isBlankByte_of_trimmed {line : Bytes} (htrimmed : trimmedLine line = line) :
    ∀ byte ∈ line.getLast?, isBlankByte byte = false := by
  by_cases hline : IsText line
  · intro byte hbyte
    by_contra hblank
    obtain ⟨front, rfl⟩ := List.getLast?_eq_some_iff.mp hbyte
    obtain ⟨c, hc, hblankChar⟩ :=
      exists_isBlank_of_isBlankByte ((Bool.not_eq_false _).mp hblank)
    obtain ⟨first, rfl⟩ := hline.before ⟨[c], hc⟩
    rw [hc, ← encode_append, trimmedLine_encode_eq_self_iff] at htrimmed
    have hlast := htrimmed c (by simp)
    rw [hblankChar] at hlast
    cases hlast
  · rw [trimmedLine_of_not_isText hline] at htrimmed
    exact dropTrailing_eq_self_iff.mp htrimmed

/-- A trimmed line stays as it is behind something that does not take part in its first
character. -/
theorem trimmedLine_append {front back : Bytes} (hback : back ≠ [])
    (hparted : IsText (front ++ back) → IsText back) (htrimmed : trimmedLine back = back) :
    trimmedLine (front ++ back) = front ++ back := by
  by_cases htext : IsText (front ++ back)
  · obtain ⟨second, rfl⟩ := hparted htext
    obtain ⟨first, rfl⟩ := htext.before ⟨second, rfl⟩
    have hsome : second ≠ [] := by
      rintro rfl
      exact hback rfl
    rw [trimmedLine_encode_eq_self_iff] at htrimmed
    rw [← encode_append, trimmedLine_encode_eq_self_iff, List.getLast?_append_of_ne_nil _ hsome]
    exact htrimmed
  · rw [trimmedLine_of_not_isText htext, trimBytesEnd, dropTrailing_eq_self_iff,
      List.getLast?_append_of_ne_nil _ hback]
    exact not_isBlankByte_of_trimmed htrimmed

/-- Behind text, a line that is not blank loses the same as alone. -/
theorem trimmedLine_append_of_ne_nil {front back : Bytes} (hfront : IsText front)
    (hsome : trimmedLine back ≠ []) : trimmedLine (front ++ back) = front ++ trimmedLine back := by
  by_cases hback : IsText back
  · obtain ⟨first, rfl⟩ := hfront
    obtain ⟨second, rfl⟩ := hback
    have hkept : dropTrailing isBlank second ≠ [] := by
      intro hnone
      rw [trimmedLine_encode, hnone] at hsome
      exact hsome rfl
    rw [← encode_append, trimmedLine_encode, trimmedLine_encode,
      dropTrailing_append_of_ne_nil hkept, encode_append]
  · have hwhole : ¬ IsText (front ++ back) := fun htext => hback (htext.behind hfront)
    rw [trimmedLine_of_not_isText hback] at hsome ⊢
    rw [trimmedLine_of_not_isText hwhole]
    exact dropTrailing_append_of_ne_nil hsome front

/-- Behind text, of a blank line nothing is left. -/
theorem trimmedLine_append_of_eq_nil {front back : Bytes} (hfront : IsText front)
    (hblank : trimmedLine back = []) : trimmedLine (front ++ back) = trimmedLine front := by
  obtain ⟨first, rfl⟩ := hfront
  obtain ⟨second, rfl⟩ : IsText back := by
    by_contra hback
    rw [trimmedLine_of_not_isText hback] at hblank
    obtain ⟨blanks, hsplit, hblanks⟩ := exists_dropTrailing_append isBlankByte back
    have hall : dropTrailing isBlankByte back = [] := hblank
    rw [hall, List.nil_append] at hsplit
    exact hback (isText_of_ascii fun byte hbyte =>
      ascii_of_isBlankByte (hblanks byte (hsplit ▸ hbyte)))
  obtain ⟨blanks, hsplit, hblanks⟩ := exists_dropTrailing_append isBlank second
  have hnone : dropTrailing isBlank second = [] :=
    encode_injective ((trimmedLine_encode second).symm.trans hblank)
  rw [hnone, List.nil_append] at hsplit
  rw [← encode_append, trimmedLine_encode, trimmedLine_encode,
    dropTrailing_append_of_forall (hsplit ▸ hblanks)]

/-- Where the back of a line stays as it is, so does the line, text or not. -/
theorem trimmedLine_append_cons {front back : Bytes} {byte : UInt8} (hascii : byte.toNat < 0x80)
    (hback : back ≠ []) (htrimmed : trimmedLine back = back) :
    trimmedLine (front ++ byte :: back) = front ++ byte :: back := by
  have hsplit : front ++ byte :: back = (front ++ [byte]) ++ back := by simp
  rw [hsplit]
  refine trimmedLine_append hback (fun htext => ?_) htrimmed
  rw [← hsplit] at htext
  exact htext.behind_ascii hascii

/-- Nothing is cut from copies of a character that is not blank. -/
theorem trimmedLine_append_replicate {c : Char} (hascii : c.toNat < 0x80)
    (hblank : isBlank c = false) (front : Bytes) {count : Nat} (hcount : 0 < count) :
    trimmedLine (front ++ List.replicate count c.toNat.toUInt8) =
      front ++ List.replicate count c.toNat.toUInt8 := by
  refine trimmedLine_append (by simpa using Nat.ne_of_gt hcount) (fun _ => ?_) ?_
  · rw [← encode_replicate hascii]
    exact isText_encode _
  · rw [← encode_replicate hascii, trimmedLine_encode_eq_self_iff,
      ← List.nil_append (List.replicate count c), getLast?_append_replicate [] c hcount]
    rintro _ ⟨⟩
    exact hblank

/-- Whether no character goes across an offset: what stands in front of it is text, and so
is what stands behind it. -/
structure IsBoundary (source : Bytes) (offset : Nat) : Prop where
  le_length : offset ≤ source.length
  before : IsText (source.take offset)
  behind : IsText (source.drop offset)

/-- Whether a place is a boundary can be decided. -/
instance (source : Bytes) (offset : Nat) : Decidable (IsBoundary source offset) :=
  decidable_of_iff
    (offset ≤ source.length ∧ IsText (source.take offset) ∧ IsText (source.drop offset))
    ⟨fun ⟨hlength, hbefore, hbehind⟩ => ⟨hlength, hbefore, hbehind⟩,
      fun h => ⟨h.le_length, h.before, h.behind⟩⟩

/-- A place is a boundary if what is on both sides is text. -/
theorem isBoundary_length_iff {front back : Bytes} :
    IsBoundary (front ++ back) front.length ↔ IsText front ∧ IsText back := by
  refine ⟨fun h => ?_, fun ⟨hfront, hback⟩ => ⟨?_, ?_, ?_⟩⟩
  · have hbefore := h.before
    have hbehind := h.behind
    rw [List.take_left] at hbefore
    rw [List.drop_left] at hbehind
    exact ⟨hbefore, hbehind⟩
  · simp
  · rwa [List.take_left]
  · rwa [List.drop_left]

/-- The boundaries of a text are its end and the places of the bytes that begin a
character. -/
theorem isBoundary_iff {source : Bytes} (hsource : IsText source) {offset : Nat} :
    IsBoundary source offset ↔
      offset = source.length ∨ ∃ byte, source[offset]? = some byte ∧ ¬ IsTail byte := by
  constructor
  · intro hboundary
    rcases Nat.lt_or_eq_of_le hboundary.le_length with hlt | heq
    · refine .inr ⟨source[offset], List.getElem?_eq_getElem hlt, ?_⟩
      obtain ⟨text, htext⟩ := hboundary.behind
      rw [List.drop_eq_getElem_cons hlt] at htext
      cases text with
      | nil => cases htext
      | cons c text =>
          obtain ⟨first, tails, hcons, hfirst, -⟩ := (spells_encodeChar c).exists_eq_cons
          have hbytes : _ = encodeChar c ++ encode text := htext
          rw [hcons] at hbytes
          rwa [(List.cons.inj hbytes).1]
    · exact .inl heq
  · rintro (rfl | ⟨byte, hbyte, hfirst⟩)
    · exact ⟨Nat.le_refl _, by rwa [List.take_length], by
        rw [List.drop_length]; exact isText_encode []⟩
    · obtain ⟨hlt, hget⟩ := List.getElem?_eq_some_iff.mp hbyte
      have hsplit : source = source.take offset ++ byte :: source.drop (offset + 1) := by
        rw [← hget, ← List.drop_eq_getElem_cons hlt, List.take_append_drop]
      have hbefore : IsText (source.take offset) := by
        rw [hsplit] at hsource
        exact hsource.before_cons hfirst
      refine ⟨Nat.le_of_lt hlt, hbefore, ?_⟩
      rw [← List.take_append_drop offset source] at hsource
      exact hsource.behind hbefore

namespace IsBoundary

variable {source : Bytes} {offset : Nat}

/-- Only text has boundaries. -/
theorem isText (hboundary : IsBoundary source offset) : IsText source := by
  rw [← List.take_append_drop offset source]
  exact hboundary.before.append hboundary.behind

/-- Behind a boundary and the text that follows it there is another one. -/
theorem add {text rest : Bytes} (hboundary : IsBoundary source offset)
    (hdrop : source.drop offset = text ++ rest) (htext : IsText text) :
    IsBoundary source (offset + text.length) := by
  have hsplit : source = (source.take offset ++ text) ++ rest := by
    rw [List.append_assoc, ← hdrop, List.take_append_drop]
  have hlength : (source.take offset ++ text).length = offset + text.length := by
    rw [List.length_append, List.length_take, Nat.min_eq_left hboundary.le_length]
  have hbehind := hboundary.behind
  rw [hdrop] at hbehind
  rw [← hlength]
  conv => arg 1; rw [hsplit]
  exact isBoundary_length_iff.mpr ⟨hboundary.before.append htext, hbehind.behind htext⟩

end IsBoundary

/-- There is a boundary on both sides of an ASCII byte. -/
theorem isBoundary_ascii {source : Bytes} (hsource : IsText source) {offset : Nat} {byte : UInt8}
    (hbyte : source[offset]? = some byte) (hascii : byte.toNat < 0x80) :
    IsBoundary source offset ∧ IsBoundary source (offset + 1) := by
  have hbefore : IsBoundary source offset :=
    (isBoundary_iff hsource).mpr (.inr ⟨byte, hbyte, not_isTail_of_ascii hascii⟩)
  obtain ⟨hlt, hget⟩ := List.getElem?_eq_some_iff.mp hbyte
  have hdrop : source.drop offset = [byte] ++ source.drop (offset + 1) := by
    rw [List.drop_eq_getElem_cons hlt, hget]
    rfl
  exact ⟨hbefore, hbefore.add hdrop (isText_of_ascii (by simpa using hascii))⟩

end Utf8

/-- Whether a segment begins and ends at boundaries. -/
structure Segment.IsWhole (source : Bytes) (segment : Segment) : Prop where
  start : Utf8.IsBoundary source segment.start
  stop : Utf8.IsBoundary source segment.stop

/-- Whether a segment is whole can be decided. -/
instance (source : Bytes) (segment : Segment) : Decidable (segment.IsWhole source) :=
  decidable_of_iff
    (Utf8.IsBoundary source segment.start ∧ Utf8.IsBoundary source segment.stop)
    ⟨fun ⟨hstart, hstop⟩ => ⟨hstart, hstop⟩, fun h => ⟨h.start, h.stop⟩⟩

namespace Segment.IsWhole

variable {source : Bytes} {segment : Segment}

/-- Between two boundaries there is text. -/
theorem isText_bytes (hwhole : segment.IsWhole source) : Utf8.IsText (segment.bytes source) := by
  rcases Nat.le_total segment.start segment.stop with hle | hle
  · have hsplit : source.take segment.stop =
        source.take segment.start ++ segment.bytes source := by
      rw [Segment.bytes, Segment.length, ← List.take_add, Nat.add_sub_cancel' hle]
    have hbefore := hwhole.stop.before
    rw [hsplit] at hbefore
    exact hbefore.behind hwhole.start.before
  · rw [Segment.bytes, Segment.length, Nat.sub_eq_zero_of_le hle, List.take_zero]
    exact Utf8.isText_encode []

/-- A part that stands between texts is a segment between boundaries, too. -/
theorem inner {front middle back : Bytes} (hwhole : segment.IsWhole source)
    (hbytes : segment.bytes source = front ++ middle ++ back) (hfront : Utf8.IsText front)
    (hmiddle : Utf8.IsText middle) :
    IsWhole source
      ⟨segment.start + front.length, segment.start + front.length + middle.length⟩ := by
  have hdrop : source.drop segment.start =
      (front ++ middle) ++ (back ++ (source.drop segment.start).drop segment.length) := by
    rw [← List.append_assoc, ← hbytes, Segment.bytes, List.take_append_drop]
  have hstart : Utf8.IsBoundary source (segment.start + front.length) :=
    hwhole.start.add (by rw [hdrop, List.append_assoc]) hfront
  refine ⟨hstart, ?_⟩
  have hstop := hwhole.start.add hdrop (hfront.append hmiddle)
  rwa [List.length_append, ← Nat.add_assoc] at hstop

end Segment.IsWhole

end MarkdownFormat
