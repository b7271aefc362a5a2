/-
# UTF-8

Text arrives and leaves as bytes, and some of them may spell no character.
This module reads a byte string as a sequence of pieces: characters, malformed
runs and a truncated end. A malformed run is as long as the longest prefix of
some character that stands there, which is what decides how many replacement
characters stand for it and what an error says about it.
-/

namespace MarkdownFormat

/-- Raw text as it stands in a file: any bytes at all. -/
abbrev Bytes := List UInt8

namespace Utf8

/-- The one to four bytes that spell a character. -/
def encodeChar (c : Char) : Bytes :=
  let n := c.toNat
  if n < 0x80 then
    [n.toUInt8]
  else if n < 0x800 then
    [(0xC0 + n / 0x40).toUInt8, (0x80 + n % 0x40).toUInt8]
  else if n < 0x10000 then
    [(0xE0 + n / 0x1000).toUInt8, (0x80 + n / 0x40 % 0x40).toUInt8,
      (0x80 + n % 0x40).toUInt8]
  else
    [(0xF0 + n / 0x40000).toUInt8, (0x80 + n / 0x1000 % 0x40).toUInt8,
      (0x80 + n / 0x40 % 0x40).toUInt8, (0x80 + n % 0x40).toUInt8]

/-- The bytes of a character sequence. -/
def encode (text : List Char) : Bytes :=
  text.flatMap encodeChar

/-- What one stretch of a byte string spells. -/
inductive Piece
  /-- A complete character. -/
  | char (c : Char)
  /-- Bytes that begin no character, or a character broken off by the next byte. -/
  | malformed (length : Nat)
  /-- A character broken off by the end of the string. -/
  | truncated (length : Nat)
  deriving DecidableEq, Repr

/-- A character of which the first bytes have been read. -/
structure Pending where
  /-- The bits read so far. -/
  code : Nat
  /-- How many bytes they took. -/
  seen : Nat
  /-- How many bytes are still to come. -/
  missing : Nat
  /-- Least value of the next byte. -/
  low : Nat
  /-- Greatest value of the next byte. -/
  high : Nat
  deriving DecidableEq, Repr

/-- Reads a byte where a character may begin. The ranges for the second byte
exclude overlong spellings, surrogates and code points past the last one. -/
def start (byte : UInt8) : List Piece × Option Pending :=
  let n := byte.toNat
  if n < 0x80 then ([.char (Char.ofNat n)], none)
  else if n < 0xC2 then ([.malformed 1], none)
  else if n < 0xE0 then ([], some ⟨n - 0xC0, 1, 1, 0x80, 0xBF⟩)
  else if n = 0xE0 then ([], some ⟨0, 1, 2, 0xA0, 0xBF⟩)
  else if n = 0xED then ([], some ⟨0xD, 1, 2, 0x80, 0x9F⟩)
  else if n < 0xF0 then ([], some ⟨n - 0xE0, 1, 2, 0x80, 0xBF⟩)
  else if n = 0xF0 then ([], some ⟨0, 1, 3, 0x90, 0xBF⟩)
  else if n < 0xF4 then ([], some ⟨n - 0xF0, 1, 3, 0x80, 0xBF⟩)
  else if n = 0xF4 then ([], some ⟨4, 1, 3, 0x80, 0x8F⟩)
  else ([.malformed 1], none)

/-- Reads the next byte. One that cannot continue the pending character ends a
malformed run and is read again as a possible beginning. -/
def step (state : Option Pending) (byte : UInt8) : List Piece × Option Pending :=
  match state with
  | none => start byte
  | some p =>
    let n := byte.toNat
    if p.low ≤ n ∧ n ≤ p.high then
      let code := p.code * 0x40 + (n - 0x80)
      if p.missing = 1 then ([.char (Char.ofNat code)], none)
      else ([], some ⟨code, p.seen + 1, p.missing - 1, 0x80, 0xBF⟩)
    else
      let (pieces, next) := start byte
      (.malformed p.seen :: pieces, next)

/-- The pieces of a byte string that continues a pending character. -/
def piecesFrom : Option Pending → Bytes → List Piece
  | none, [] => []
  | some p, [] => [.truncated p.seen]
  | state, byte :: rest =>
    let (pieces, next) := step state byte
    pieces ++ piecesFrom next rest

/-- The pieces of a byte string. -/
def pieces (bytes : Bytes) : List Piece :=
  piecesFrom none bytes

/-- The character that stands for a piece: itself, or U+FFFD. -/
def Piece.shown : Piece → Char
  | .char c => c
  | .malformed _ | .truncated _ => '\ufffd'

/-- The characters of a byte string, with one U+FFFD for each malformed run. -/
def decodeLossy (bytes : Bytes) : List Char :=
  (pieces bytes).map Piece.shown

/-- Why a byte string is not UTF-8. The index is that of the first bad byte. -/
inductive Defect
  | malformed (length index : Nat)
  | truncated (index : Nat)
  deriving DecidableEq, Repr

/-- The characters of the pieces that follow `index` valid bytes. -/
def collect (index : Nat) : List Piece → Except Defect (List Char)
  | [] => .ok []
  | .char c :: rest =>
    match collect (index + (encodeChar c).length) rest with
    | .ok text => .ok (c :: text)
    | .error defect => .error defect
  | .malformed length :: _ => .error (.malformed length index)
  | .truncated _ :: _ => .error (.truncated index)

/-- The characters of a byte string that is UTF-8 throughout. -/
def decode (bytes : Bytes) : Except Defect (List Char) :=
  collect 0 (pieces bytes)

/-- The wording of a decoding error. -/
def Defect.message : Defect → String
  | .malformed length index =>
    "invalid utf-8 sequence of " ++ toString length ++ " bytes from index " ++ toString index
  | .truncated index => "incomplete utf-8 byte sequence from index " ++ toString index

/-- The bytes of a string. -/
def ofString (text : String) : Bytes :=
  encode text.toList

end Utf8

end MarkdownFormat
