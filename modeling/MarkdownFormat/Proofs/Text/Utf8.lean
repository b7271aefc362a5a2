/-
# Reading back what is spelled

The bytes of a character sequence are read as exactly these characters, and bytes that
are read without a defect are those of the characters read. So a byte string is UTF-8
exactly if it is the spelling of some text.

Between the two stands the form of a spelling: the ranges of its first byte and of the
bytes behind it, and the code point that they make up.
-/

import MarkdownFormat.Text.Utf8

namespace MarkdownFormat.Utf8

/-- Texts are encoded one after the other. -/
theorem encode_append (first second : List Char) :
    encode (first ++ second) = encode first ++ encode second :=
  List.flatMap_append

/-- ASCII characters are encoded as themselves. -/
theorem encodeChar_of_lt {c : Char} (hascii : c.toNat < 0x80) :
    encodeChar c = [c.toNat.toUInt8] := by
  simp [encodeChar, hascii]

/-- So are rows of them. -/
theorem encode_replicate {c : Char} (hascii : c.toNat < 0x80) (count : Nat) :
    encode (List.replicate count c) = List.replicate count c.toNat.toUInt8 := by
  induction count with
  | zero => rfl
  | succ count ih =>
      rw [List.replicate_succ, List.replicate_succ, ← ih]
      show encodeChar c ++ _ = _
      rw [encodeChar_of_lt hascii]
      rfl

/-- ASCII characters are one byte each. -/
theorem encode_of_ascii {text : List Char} (hascii : ∀ c ∈ text, c.toNat < 0x80) :
    encode text = text.map fun c => c.toNat.toUInt8 := by
  induction text with
  | nil => rfl
  | cons c rest ih =>
      obtain ⟨hc, hrest⟩ := List.forall_mem_cons.mp hascii
      show encodeChar c ++ encode rest = _
      rw [encodeChar_of_lt hc, ih hrest]
      rfl

/-- The least second byte behind the first byte of three or four: less would be an overlong
spelling. -/
def leastSecond (first : UInt8) : Nat :=
  if first.toNat = 0xE0 then 0xA0 else if first.toNat = 0xF0 then 0x90 else 0x80

/-- The greatest second byte behind the first byte of three or four: more would be a
surrogate or lie behind the last code point. -/
def greatestSecond (first : UInt8) : Nat :=
  if first.toNat = 0xED then 0x9F else if first.toNat = 0xF4 then 0x8F else 0xBF

/-- Whether a byte continues a character. -/
def IsTail (byte : UInt8) : Prop :=
  0x80 ≤ byte.toNat ∧ byte.toNat ≤ 0xBF

/-- Whether a byte may be second behind a first byte of three or four. -/
def IsSecond (first byte : UInt8) : Prop :=
  leastSecond first ≤ byte.toNat ∧ byte.toNat ≤ greatestSecond first

/-- The spelling of a code point. -/
inductive Spells : Bytes → Nat → Prop
  | one {a : UInt8} (hfirst : a.toNat < 0x80) : Spells [a] a.toNat
  | two {a b : UInt8} (hfirst : 0xC2 ≤ a.toNat ∧ a.toNat < 0xE0) (hb : IsTail b) :
      Spells [a, b] ((a.toNat - 0xC0) * 0x40 + (b.toNat - 0x80))
  | three {a b c : UInt8} (hfirst : 0xE0 ≤ a.toNat ∧ a.toNat < 0xF0) (hb : IsSecond a b)
      (hc : IsTail c) :
      Spells [a, b, c]
        (((a.toNat - 0xE0) * 0x40 + (b.toNat - 0x80)) * 0x40 + (c.toNat - 0x80))
  | four {a b c d : UInt8} (hfirst : 0xF0 ≤ a.toNat ∧ a.toNat < 0xF5) (hb : IsSecond a b)
      (hc : IsTail c) (hd : IsTail d) :
      Spells [a, b, c, d]
        ((((a.toNat - 0xF0) * 0x40 + (b.toNat - 0x80)) * 0x40 + (c.toNat - 0x80)) * 0x40
          + (d.toNat - 0x80))

/-- Small numbers are bytes. -/
theorem toNat_toUInt8 {n : Nat} (hlt : n < 0x100) : n.toUInt8.toNat = n := by
  simpa using hlt

/-- The bytes of a character have the form of its spelling. -/
theorem spells_encodeChar (c : Char) : Spells (encodeChar c) c.toNat := by
  have hvalid : c.toNat < 0xD800 ∨ 0xDFFF < c.toNat ∧ c.toNat < 0x110000 := c.valid
  generalize hn : c.toNat = n at hvalid
  rw [encodeChar, hn]
  have htail : ∀ m, (0x80 + m % 0x40).toUInt8.toNat = 0x80 + m % 0x40 :=
    fun m => toNat_toUInt8 (by omega)
  have hisTail : ∀ m, IsTail (0x80 + m % 0x40).toUInt8 := fun m => by
    rw [IsTail, htail]
    omega
  by_cases hone : n < 0x80
  · have hfirst : n.toUInt8.toNat = n := toNat_toUInt8 (by omega)
    rw [if_pos hone]
    have hspells : Spells [n.toUInt8] n.toUInt8.toNat := .one (by omega)
    rwa [hfirst] at hspells
  by_cases htwo : n < 0x800
  · have hfirst : (0xC0 + n / 0x40).toUInt8.toNat = 0xC0 + n / 0x40 :=
      toNat_toUInt8 (by omega)
    rw [if_neg hone, if_pos htwo]
    have hspells := Spells.two (a := (0xC0 + n / 0x40).toUInt8) (by omega) (hisTail n)
    have hcode : (0xC0 + n / 0x40 - 0xC0) * 0x40 + (0x80 + n % 0x40 - 0x80) = n := by omega
    rwa [hfirst, htail, hcode] at hspells
  by_cases hthree : n < 0x10000
  · have hfirst : (0xE0 + n / 0x1000).toUInt8.toNat = 0xE0 + n / 0x1000 :=
      toNat_toUInt8 (by omega)
    have hsecond : IsSecond (0xE0 + n / 0x1000).toUInt8 (0x80 + n / 0x40 % 0x40).toUInt8 := by
      simp only [IsSecond, leastSecond, greatestSecond, hfirst, htail]
      split <;> split <;> grind
    rw [if_neg hone, if_neg htwo, if_pos hthree]
    have hspells := Spells.three (by omega) hsecond (hisTail n)
    have hcode : ((0xE0 + n / 0x1000 - 0xE0) * 0x40 + (0x80 + n / 0x40 % 0x40 - 0x80)) * 0x40
        + (0x80 + n % 0x40 - 0x80) = n := by omega
    rwa [hfirst, htail, htail, hcode] at hspells
  · have hfirst : (0xF0 + n / 0x40000).toUInt8.toNat = 0xF0 + n / 0x40000 :=
      toNat_toUInt8 (by omega)
    have hsecond : IsSecond (0xF0 + n / 0x40000).toUInt8
        (0x80 + n / 0x1000 % 0x40).toUInt8 := by
      simp only [IsSecond, leastSecond, greatestSecond, hfirst, htail]
      split <;> split <;> grind
    rw [if_neg hone, if_neg htwo, if_neg hthree]
    have hspells := Spells.four (by omega) hsecond (hisTail (n / 0x40)) (hisTail n)
    have hcode : (((0xF0 + n / 0x40000 - 0xF0) * 0x40 + (0x80 + n / 0x1000 % 0x40 - 0x80)) * 0x40
        + (0x80 + n / 0x40 % 0x40 - 0x80)) * 0x40 + (0x80 + n % 0x40 - 0x80) = n := by omega
    rwa [hfirst, htail, htail, htail, hcode] at hspells

/-- What has the form of a spelling are the bytes of a character. -/
theorem Spells.encodeChar_eq {bytes : Bytes} {n : Nat} (hspells : Spells bytes n) :
    encodeChar (Char.ofNat n) = bytes := by
  have htoNat : ∀ {m : Nat}, m.isValidChar → (Char.ofNat m).toNat = m := fun hvalid => by
    rw [Char.ofNat, dif_pos hvalid]
    rfl
  have hbyte : ∀ {a : UInt8} {m : Nat}, m = a.toNat → m.toUInt8 = a := fun hm => by simp [hm]
  cases hspells with
  | @one a hfirst =>
      rw [encodeChar, htoNat (Or.inl (by omega)), if_pos hfirst, hbyte rfl]
  | @two a b hfirst hb =>
      obtain ⟨hbLow, hbHigh⟩ := hb
      rw [encodeChar, htoNat (Or.inl (by omega)), if_neg (by omega), if_pos (by omega),
        hbyte (a := a) (by omega), hbyte (a := b) (by omega)]
  | @three a b c hfirst hb hc =>
      obtain ⟨hcLow, hcHigh⟩ := hc
      simp only [IsSecond, leastSecond, greatestSecond] at hb
      have hrange : 0x80 ≤ b.toNat ∧ b.toNat ≤ 0xBF ∧ (a.toNat = 0xE0 → 0xA0 ≤ b.toNat) ∧
        (a.toNat = 0xED → b.toNat ≤ 0x9F) := by grind
      have hvalid : (((a.toNat - 0xE0) * 0x40 + (b.toNat - 0x80)) * 0x40
          + (c.toNat - 0x80)).isValidChar := by
        simp only [Nat.isValidChar]
        omega
      rw [encodeChar, htoNat hvalid, if_neg (by omega), if_neg (by omega), if_pos (by omega),
        hbyte (a := a) (by omega), hbyte (a := b) (by omega), hbyte (a := c) (by omega)]
  | @four a b c d hfirst hb hc hd =>
      obtain ⟨hcLow, hcHigh⟩ := hc
      obtain ⟨hdLow, hdHigh⟩ := hd
      simp only [IsSecond, leastSecond, greatestSecond] at hb
      have hrange : 0x80 ≤ b.toNat ∧ b.toNat ≤ 0xBF ∧ (a.toNat = 0xF0 → 0x90 ≤ b.toNat) ∧
        (a.toNat = 0xF4 → b.toNat ≤ 0x8F) := by grind
      have hvalid : ((((a.toNat - 0xF0) * 0x40 + (b.toNat - 0x80)) * 0x40
          + (c.toNat - 0x80)) * 0x40 + (d.toNat - 0x80)).isValidChar := by
        simp only [Nat.isValidChar]
        omega
      rw [encodeChar, htoNat hvalid, if_neg (by omega), if_neg (by omega), if_neg (by omega),
        hbyte (a := a) (by omega), hbyte (a := b) (by omega), hbyte (a := c) (by omega),
        hbyte (a := d) (by omega)]

/-- These bytes start a character of two bytes. -/
theorem start_two {a : UInt8} (hfirst : 0xC2 ≤ a.toNat ∧ a.toNat < 0xE0) :
    start a = ([], some ⟨a.toNat - 0xC0, 1, 1, 0x80, 0xBF⟩) := by
  grind [start]

/-- These bytes start a character of three bytes. -/
theorem start_three {a : UInt8} (hfirst : 0xE0 ≤ a.toNat ∧ a.toNat < 0xF0) :
    start a = ([], some ⟨a.toNat - 0xE0, 1, 2, leastSecond a, greatestSecond a⟩) := by
  grind [start, leastSecond, greatestSecond]

/-- These bytes start a character of four bytes. -/
theorem start_four {a : UInt8} (hfirst : 0xF0 ≤ a.toNat ∧ a.toNat < 0xF5) :
    start a = ([], some ⟨a.toNat - 0xF0, 1, 3, leastSecond a, greatestSecond a⟩) := by
  grind [start, leastSecond, greatestSecond]

/-- Bytes that cannot begin a character. -/
theorem start_malformed {a : UInt8}
    (hfirst : 0x80 ≤ a.toNat ∧ a.toNat < 0xC2 ∨ 0xF5 ≤ a.toNat) :
    start a = ([.malformed 1], none) := by
  grind [start]

/-- A spelling is read as its character, whatever follows. -/
theorem Spells.piecesFrom_append {bytes : Bytes} {n : Nat} (hspells : Spells bytes n)
    (rest : Bytes) :
    piecesFrom none (bytes ++ rest) = .char (Char.ofNat n) :: piecesFrom none rest := by
  cases hspells with
  | one hfirst => simp [piecesFrom, step, start, hfirst]
  | two hfirst hb => simp [piecesFrom, step, start_two hfirst, hb.1, hb.2]
  | three hfirst hb hc =>
      simp [piecesFrom, step, start_three hfirst, hb.1, hb.2, hc.1, hc.2]
  | four hfirst hb hc hd =>
      simp [piecesFrom, step, start_four hfirst, hb.1, hb.2, hc.1, hc.2, hd.1, hd.2]

/-- Where no defect is found, a pending character goes on with a byte in its range. -/
theorem exists_of_collect_pending {p : Pending} {bytes : Bytes} {index : Nat}
    {text : List Char} (hcollect : collect index (piecesFrom (some p) bytes) = .ok text) :
    ∃ byte rest, bytes = byte :: rest ∧ p.low ≤ byte.toNat ∧ byte.toNat ≤ p.high ∧
      collect index ((step (some p) byte).1 ++ piecesFrom (step (some p) byte).2 rest) =
        .ok text := by
  cases bytes with
  | nil => cases hcollect
  | cons byte rest =>
      by_cases hrange : p.low ≤ byte.toNat ∧ byte.toNat ≤ p.high
      · exact ⟨byte, rest, rfl, hrange.1, hrange.2, hcollect⟩
      · simp [piecesFrom, step, hrange, collect] at hcollect

/-- Where no defect is found, bytes begin with a spelling. -/
theorem exists_spells_of_collect {byte : UInt8} {bytes : Bytes} {index : Nat}
    {text : List Char} (hcollect : collect index (piecesFrom none (byte :: bytes)) = .ok text) :
    ∃ front rest n, byte :: bytes = front ++ rest ∧ Spells front n := by
  by_cases hone : byte.toNat < 0x80
  · exact ⟨[byte], bytes, _, rfl, .one hone⟩
  by_cases htwo : 0xC2 ≤ byte.toNat ∧ byte.toNat < 0xE0
  · simp only [piecesFrom, step, start_two htwo, List.nil_append] at hcollect
    obtain ⟨b, rest, rfl, hlow, hhigh, -⟩ := exists_of_collect_pending hcollect
    exact ⟨[byte, b], rest, _, rfl, .two htwo ⟨hlow, hhigh⟩⟩
  by_cases hthree : 0xE0 ≤ byte.toNat ∧ byte.toNat < 0xF0
  · simp only [piecesFrom, step, start_three hthree, List.nil_append] at hcollect
    obtain ⟨b, rest, rfl, hbLow, hbHigh, hcollect⟩ := exists_of_collect_pending hcollect
    simp only [step, hbLow, hbHigh, and_self, if_true] at hcollect
    obtain ⟨c, rest, rfl, hcLow, hcHigh, -⟩ := exists_of_collect_pending hcollect
    exact ⟨[byte, b, c], rest, _, rfl, .three hthree ⟨hbLow, hbHigh⟩ ⟨hcLow, hcHigh⟩⟩
  by_cases hfour : 0xF0 ≤ byte.toNat ∧ byte.toNat < 0xF5
  · simp only [piecesFrom, step, start_four hfour, List.nil_append] at hcollect
    obtain ⟨b, rest, rfl, hbLow, hbHigh, hcollect⟩ := exists_of_collect_pending hcollect
    simp only [step, hbLow, hbHigh, and_self, if_true] at hcollect
    obtain ⟨c, rest, rfl, hcLow, hcHigh, hcollect⟩ := exists_of_collect_pending hcollect
    simp only [step, hcLow, hcHigh, and_self, if_true] at hcollect
    obtain ⟨d, rest, rfl, hdLow, hdHigh, -⟩ := exists_of_collect_pending hcollect
    exact ⟨[byte, b, c, d], rest, _, rfl,
      .four hfour ⟨hbLow, hbHigh⟩ ⟨hcLow, hcHigh⟩ ⟨hdLow, hdHigh⟩⟩
  · have hmalformed : start byte = ([.malformed 1], none) := start_malformed (by omega)
    simp [piecesFrom, step, hmalformed, collect] at hcollect

/-- Behind a character's bytes, reading starts anew. -/
theorem pieces_encodeChar_append (c : Char) (rest : Bytes) :
    pieces (encodeChar c ++ rest) = .char c :: pieces rest := by
  rw [pieces, (spells_encodeChar c).piecesFrom_append, Char.ofNat_toNat]
  rfl

/-- Encoded characters are read without a defect. -/
theorem pieces_encode (text : List Char) : pieces (encode text) = text.map .char := by
  induction text with
  | nil => rfl
  | cons c rest ih =>
      show pieces (encodeChar c ++ encode rest) = _
      rw [pieces_encodeChar_append, ih]
      rfl

/-- What is read without a defect is text. -/
theorem collect_map_char (index : Nat) (text : List Char) :
    collect index (text.map .char) = .ok text := by
  induction text generalizing index with
  | nil => rfl
  | cons c rest ih => rw [List.map_cons, collect, ih]

/-- The bytes of a text are read as the text. -/
theorem decode_encode (text : List Char) : decode (encode text) = .ok text := by
  rw [decode, pieces_encode, collect_map_char]

/-- Bytes without a defect are those of the text that is read. -/
theorem encode_of_collect {bytes : Bytes} {index : Nat} {text : List Char}
    (hcollect : collect index (pieces bytes) = .ok text) : encode text = bytes := by
  induction hlength : bytes.length using Nat.strongRecOn
    generalizing bytes index text with
  | ind length ih =>
    cases bytes with
    | nil =>
        cases hcollect
        rfl
    | cons byte bytes =>
        obtain ⟨front, rest, n, hsplit, hspells⟩ := exists_spells_of_collect hcollect
        have hfront : front = encodeChar (Char.ofNat n) := hspells.encodeChar_eq.symm
        rw [hsplit, hfront, pieces_encodeChar_append, collect] at hcollect
        have hshorter : rest.length < length := by
          rw [← hlength, hsplit, List.length_append]
          have hnonempty : 0 < front.length := by cases hspells <;> simp
          omega
        split at hcollect
        · rename_i later hlater
          cases hcollect
          show encodeChar _ ++ encode later = _
          rw [ih _ hshorter hlater rfl, hsplit, hfront]
        · cases hcollect

/-- Bytes are read without a defect exactly if they are those of the text read. -/
theorem decode_eq_ok {bytes : Bytes} {text : List Char} :
    decode bytes = .ok text ↔ bytes = encode text := by
  refine ⟨fun hdecode => (encode_of_collect hdecode).symm, ?_⟩
  rintro rfl
  exact decode_encode text

end MarkdownFormat.Utf8
