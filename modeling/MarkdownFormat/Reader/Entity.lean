/-
# Character references and escapes

In link destinations, titles and info strings, a backslash before punctuation
stands for the punctuation, and a character reference for its characters. A
reference goes by name or by a code point in decimal or hexadecimal; a code point
that is no character becomes U+FFFD.
-/

import MarkdownFormat.Reader.Chars
import MarkdownFormat.Reader.NamedCharacters
import MarkdownFormat.Text.Digits

namespace MarkdownFormat.Entity

/-- The character of a code point. -/
def ofCodePoint (n : Nat) : Char :=
  if n = 0 then '\ufffd'
  else if h : n.isValidChar then Char.ofNatAux n h
  else '\ufffd'

/-- A digit sequence that ends with a semicolon, and what follows. -/
def digits? (isDigit : Char → Bool) (base limit : Nat) (chars : Chars) : Option (Nat × Chars) :=
  let digits := chars.takeWhile fun c => isDigit c.char
  match chars.dropWhile fun c => isDigit c.char with
  | ⟨';', _, _⟩ :: rest =>
    if digits ≠ [] && digits.length ≤ limit then
      some (Digits.number base (Chars.text digits), rest)
    else none
  | _ => none

/-- The characters of a reference, and what follows it. The ampersand has been
read. -/
def read? : Chars → Option (List Char × Chars)
  | ⟨'#', _, _⟩ :: rest =>
    let hexadecimal := rest.head?.any fun c => c.char = 'x' || c.char = 'X'
    let number? :=
      if hexadecimal then digits? Digits.isHex 16 6 (rest.drop 1)
      else digits? Char.isDigit 10 7 rest
    number?.map fun (n, rest) => ([ofCodePoint n], rest)
  | chars =>
    let name := chars.takeWhile fun c => c.char.isAlphanum
    match chars.dropWhile fun c => c.char.isAlphanum with
    | ⟨';', _, _⟩ :: rest =>
      (named? (Chars.text name)).map fun codePoints => (codePoints.map ofCodePoint, rest)
    | _ => none

/-- Resolves escapes and references in text of at most `fuel` characters. -/
def resolveUpTo : Nat → Chars → List Char
  | 0, _ => []
  | _ + 1, [] => []
  | fuel + 1, c :: rest =>
    if c.char = '\\' then
      match rest with
      | d :: rest' =>
        if isAsciiPunctuation d.char then d.char :: resolveUpTo fuel rest'
        else '\\' :: resolveUpTo fuel rest
      | [] => ['\\']
    else if c.char = '&' then
      match read? rest with
      | some (chars, rest') => chars ++ resolveUpTo fuel rest'
      | none => '&' :: resolveUpTo fuel rest
    else c.char :: resolveUpTo fuel rest

/-- The text in which escapes and references have been resolved. -/
def resolve (chars : Chars) : String :=
  String.ofList (resolveUpTo chars.length chars)

end MarkdownFormat.Entity
