/-
# ASCII characters in decoded bytes

Decoding shows each ASCII byte as a character, whatever stands around it; any other
character, that for bytes that spell none included, stands for bytes beyond ASCII. So an
ASCII character has the same places among the bytes and among the characters.
-/

import MarkdownFormat.Proofs.Text.Runs
import MarkdownFormat.Proofs.Text.Utf8

namespace MarkdownFormat.Utf8

/-- What is missing of a character makes it one beyond ASCII. -/
structure Pending.IsProper (p : Pending) : Prop where
  low : 0x80 ≤ p.low
  missing : 0 < p.missing
  code : 0x80 ≤ (p.code * 0x40 + (p.low - 0x80)) * 0x40 ^ (p.missing - 1)

/-- A byte where a character may begin is one, begins none or begins one beyond ASCII. -/
theorem start_cases (byte : UInt8) :
    byte.toNat < 0x80 ∧ start byte = ([.char (Char.ofNat byte.toNat)], none) ∨
      0x80 ≤ byte.toNat ∧ (start byte = ([.malformed 1], none) ∨
        ∃ p : Pending, p.IsProper ∧ start byte = ([], some p)) := by
  rcases Nat.lt_or_ge byte.toNat 0x80 with hascii | hbeyond
  · exact .inl ⟨hascii, if_pos hascii⟩
  refine .inr ⟨hbeyond, ?_⟩
  rcases Nat.lt_or_ge byte.toNat 0xC2 with htail | hfirst
  · exact .inl (start_malformed (.inl ⟨hbeyond, htail⟩))
  rcases Nat.lt_or_ge byte.toNat 0xE0 with htwo | hthree
  · refine .inr ⟨_, ⟨Nat.le_refl _, Nat.one_pos, ?_⟩, start_two ⟨hfirst, htwo⟩⟩
    dsimp only
    omega
  rcases Nat.lt_or_ge byte.toNat 0xF0 with hthree' | hfour
  · refine .inr ⟨_, ⟨?_, Nat.two_pos, ?_⟩, start_three ⟨hthree, hthree'⟩⟩ <;>
      dsimp only [leastSecond] <;> split_ifs <;> omega
  rcases Nat.lt_or_ge byte.toNat 0xF5 with hlast | hnone
  · refine .inr ⟨_, ⟨?_, Nat.succ_pos 2, ?_⟩, start_four ⟨hfour, hlast⟩⟩ <;>
      dsimp only [leastSecond] <;> split_ifs <;> omega
  · exact .inl (start_malformed (.inr hnone))

/-- The next byte completes a character beyond ASCII, or less of it is missing, or else it
is read as a beginning. -/
theorem step_cases {p : Pending} (hproper : p.IsProper) (byte : UInt8) :
    (0x80 ≤ byte.toNat ∧
      ((∃ code, 0x80 ≤ code ∧ step (some p) byte = ([.char (Char.ofNat code)], none)) ∨
        ∃ next : Pending, next.IsProper ∧ step (some p) byte = ([], some next))) ∨
      step (some p) byte = (.malformed p.seen :: (start byte).1, (start byte).2) := by
  obtain ⟨hlow, hmissing, hcode⟩ := hproper
  by_cases hrange : p.low ≤ byte.toNat ∧ byte.toNat ≤ p.high
  · refine .inl ⟨Nat.le_trans hlow hrange.1, ?_⟩
    have hgrown : p.code * 0x40 + (p.low - 0x80) ≤ p.code * 0x40 + (byte.toNat - 0x80) := by omega
    by_cases hlast : p.missing = 1
    · refine .inl ⟨p.code * 0x40 + (byte.toNat - 0x80), ?_, ?_⟩
      · rw [hlast] at hcode
        omega
      · simp [step, hrange, hlast]
    · refine .inr ⟨⟨p.code * 0x40 + (byte.toNat - 0x80), p.seen + 1, p.missing - 1, 0x80, 0xBF⟩,
        ⟨Nat.le_refl _, by dsimp only; omega, ?_⟩, by simp [step, hrange, hlast]⟩
      obtain ⟨more, hmore⟩ : ∃ more, p.missing = more + 2 := ⟨p.missing - 2, by omega⟩
      rw [hmore] at hcode
      dsimp only
      rw [hmore]
      calc 0x80 ≤ (p.code * 0x40 + (p.low - 0x80)) * 0x40 ^ (more + 1) := hcode
        _ ≤ (p.code * 0x40 + (byte.toNat - 0x80)) * 0x40 ^ (more + 1) :=
            Nat.mul_le_mul_right _ hgrown
        _ = _ := by
            rw [Nat.pow_succ, Nat.sub_self, Nat.add_zero, ← Nat.mul_assoc, Nat.mul_right_comm]
            rfl
  · right
    simp [step, hrange]

/-- No number beyond ASCII gives an ASCII character but the null character, which stands for
numbers that are no code points. -/
theorem ofNat_ne_ofNat {code ascii : Nat} (hcode : code ≠ ascii) (hpos : 0 < ascii)
    (hascii : ascii < 0x80) : Char.ofNat code ≠ Char.ofNat ascii := by
  intro heq
  have hnumber := congrArg Char.toNat heq
  have hvalid : ascii.isValidChar := .inl (Nat.lt_trans hascii (by decide))
  have hright : (Char.ofNat ascii).toNat = ascii := by
    rw [Char.ofNat, dif_pos hvalid]
    rfl
  rw [hright] at hnumber
  by_cases hcodePoint : code.isValidChar
  · have hleft : (Char.ofNat code).toNat = code := by
      rw [Char.ofNat, dif_pos hcodePoint]
      rfl
    exact hcode (hleft.symm.trans hnumber)
  · have hleft : (Char.ofNat code).toNat = 0 := by
      rw [Char.ofNat, dif_neg hcodePoint]
      rfl
    exact Nat.ne_of_lt hpos (hleft.symm.trans hnumber)

/-- Decoding the bytes of a text gives the text. -/
theorem decodeLossy_encode (text : List Char) : decodeLossy (encode text) = text := by
  rw [decodeLossy, pieces_encode, List.map_map]
  exact List.map_id' text

section Marks

variable {mark : UInt8} (hpos : 0 < mark.toNat) (hascii : mark.toNat < 0x80)

include hascii in
/-- ASCII marks are not among other bytes. -/
theorem notMem_of_beyond {front : Bytes} (hfront : ∀ byte ∈ front, 0x80 ≤ byte.toNat) :
    mark ∉ front :=
  fun hmark => Nat.not_le_of_lt hascii (hfront mark hmark)

include hpos hascii

/-- What is shown of the bytes from a place on, where a character may have begun before. -/
theorem sameMarks_piecesFrom (bytes : Bytes) :
    SameMarks mark (Char.ofNat mark.toNat) bytes ((piecesFrom none bytes).map Piece.shown) ∧
      ∀ (p : Pending) (front : Bytes), p.IsProper → front ≠ [] →
        (∀ byte ∈ front, 0x80 ≤ byte.toNat) →
        SameMarks mark (Char.ofNat mark.toNat) (front ++ bytes)
          ((piecesFrom (some p) bytes).map Piece.shown) := by
  have hreplacement : '\ufffd' ≠ Char.ofNat mark.toNat :=
    ofNat_ne_ofNat (Nat.ne_of_gt (Nat.lt_trans hascii (by decide))) hpos hascii
  induction bytes with
  | nil =>
      refine ⟨.nil, fun p front _ hfront hbeyond => ?_⟩
      exact .piece hfront (notMem_of_beyond hascii hbeyond) hreplacement .nil
  | cons byte rest ih =>
      obtain ⟨ihNone, ihSome⟩ := ih
      have hstart : SameMarks mark (Char.ofNat mark.toNat) (byte :: rest)
          (((start byte).1 ++ piecesFrom (start byte).2 rest).map Piece.shown) := by
        rcases start_cases byte with ⟨hbyte, hchar⟩ | ⟨hbyte, hnone | ⟨p, hproper, hsome⟩⟩
        · rw [hchar]
          by_cases hmark : byte = mark
          · subst hmark
            exact .mark ihNone
          · refine .piece (List.cons_ne_nil byte []) ?_ ?_ ihNone
            · simpa using Ne.symm hmark
            · exact ofNat_ne_ofNat (fun heq => hmark (UInt8.toNat_inj.mp heq)) hpos hascii
        · rw [hnone]
          refine .piece (List.cons_ne_nil byte []) ?_ hreplacement ihNone
          exact notMem_of_beyond hascii (List.forall_mem_singleton.mpr hbyte)
        · rw [hsome]
          exact ihSome p [byte] hproper (List.cons_ne_nil _ _) (List.forall_mem_singleton.mpr hbyte)
      refine ⟨hstart, fun p front hproper hfront hbeyond => ?_⟩
      have hgrown : front ++ [byte] ≠ [] := List.append_ne_nil_of_left_ne_nil hfront _
      have hlonger : 0x80 ≤ byte.toNat → ∀ other ∈ front ++ [byte], 0x80 ≤ other.toNat :=
        fun hbyte => List.forall_mem_append.mpr ⟨hbeyond, List.forall_mem_singleton.mpr hbyte⟩
      rw [piecesFrom]
      rcases step_cases hproper byte with
        ⟨hbyte, ⟨code, hcode, hchar⟩ | ⟨next, hnext, hsome⟩⟩ | hbroken
      · rw [hchar, List.append_cons]
        refine .piece hgrown (notMem_of_beyond hascii (hlonger hbyte)) ?_ ihNone
        exact ofNat_ne_ofNat (Nat.ne_of_gt (Nat.lt_of_lt_of_le hascii hcode)) hpos hascii
      · rw [hsome, List.append_cons]
        exact ihSome next (front ++ [byte]) hnext hgrown (hlonger hbyte)
      · rw [hbroken]
        exact .piece hfront (notMem_of_beyond hascii hbeyond) hreplacement hstart

/-- An ASCII character has the same places in decoded bytes as in the bytes. -/
theorem sameMarks_decodeLossy (bytes : Bytes) :
    SameMarks mark (Char.ofNat mark.toNat) bytes (decodeLossy bytes) :=
  (sameMarks_piecesFrom hpos hascii bytes).1

/-- An ASCII character has the same places in a text as in its bytes. -/
theorem sameMarks_encode (text : List Char) :
    SameMarks mark (Char.ofNat mark.toNat) (encode text) text := by
  have hsame := sameMarks_decodeLossy hpos hascii (encode text)
  rwa [decodeLossy_encode] at hsame

end Marks

end MarkdownFormat.Utf8
