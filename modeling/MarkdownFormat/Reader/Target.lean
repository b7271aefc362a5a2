/-
# Link targets

A link gives its destination and title behind its text, or refers to a definition
by a label. Labels match if they are equal after case folding and after every
sequence of blanks has become one space.
-/

import MarkdownFormat.Reader.CaseFolding
import MarkdownFormat.Reader.Entity

namespace MarkdownFormat

/-- Where a link leads. -/
structure Target where
  destination : String
  title : String
  deriving DecidableEq, Repr

/-- A label with the target it stands for. -/
structure Definition where
  /-- The label in the form in which labels are compared. -/
  label : List Char
  target : Target
  deriving DecidableEq, Repr

namespace Target

/-- A text with every sequence of blanks as one space, and none at its ends.
`pending` says that a blank was met after some text. -/
def collapseGaps (started pending : Bool) : List Char → List Char
  | [] => []
  | c :: rest =>
    if isGap c then collapseGaps started started rest
    else if pending then ' ' :: c :: collapseGaps true false rest
    else c :: collapseGaps true false rest

/-- The form in which labels are compared. -/
def normalLabel (label : Chars) : List Char :=
  CaseFolding.fold (collapseGaps false false label.text)

/-- The characters of a label up to its closing bracket, and what follows it. The
opening bracket has been read. Inner brackets must be escaped; `escaped` says that a
backslash stands before the text. -/
def labelFrom? (escaped : Bool) : Chars → Option (Chars × Chars)
  | [] => none
  | c :: rest =>
    if !escaped && c.char = ']' then some ([], rest)
    else if !escaped && c.char = '[' then none
    else (labelFrom? (!escaped && c.char = '\\') rest).map fun (label, rest) => (c :: label, rest)

/-- The longest label that counts as one. -/
def longestLabel : Nat := 999

/-- Whether some text can be a label: it is neither blank nor too long. -/
def isLabel (label : Chars) : Bool :=
  !label.isBlank && label.length ≤ longestLabel

/-- A destination up to its closing angle bracket. The opening one has been read. -/
def bracketedFrom? (escaped : Bool) : Chars → Option (Chars × Chars)
  | [] => none
  | c :: rest =>
    let literal := escaped && isAsciiPunctuation c.char
    if !literal && c.char = '>' then some ([], rest)
    else if !literal && c.char = '<' || isLineEnd c.char then none
    else (bracketedFrom? (!literal && c.char = '\\') rest).map fun (text, rest) => (c :: text, rest)

/-- Whether a character ends a plain destination. -/
def endsPlain (c : Char) : Bool :=
  c.toNat ≤ 0x20 || c.toNat = 0x7F

/-- How deep the parentheses of a plain destination can nest. -/
def deepestNesting : Nat := 32

/-- A destination without angle brackets, given how many parentheses are open. It
ends before a blank, a control or a closing parenthesis without a partner. -/
def plainFrom? (escaped : Bool) (depth : Nat) : Chars → Option (Chars × Chars)
  | [] => if depth = 0 then some ([], []) else none
  | c :: rest =>
    let literal := escaped && isAsciiPunctuation c.char
    if endsPlain c.char || (!literal && c.char = ')' && depth = 0) then
      if depth = 0 then some ([], c :: rest) else none
    else if !literal && c.char = '(' && depth = deepestNesting then none
    else
      let depth :=
        if literal then depth
        else if c.char = '(' then depth + 1
        else if c.char = ')' then depth - 1
        else depth
      (plainFrom? (!literal && c.char = '\\') depth rest).map fun (text, rest) => (c :: text, rest)

/-- A destination in either form, and what follows it. -/
def destination? (chars : Chars) : Option (Chars × Chars) :=
  match chars with
  | ⟨'<', _, _⟩ :: rest => bracketedFrom? false rest
  | _ => plainFrom? false 0 chars

/-- A title up to the character that closes it. A parenthesised title cannot hold
an opening parenthesis. -/
def titleFrom? (closing : Char) (escaped : Bool) : Chars → Option (Chars × Chars)
  | [] => none
  | c :: rest =>
    if !escaped && c.char = closing then some ([], rest)
    else if !escaped && closing = ')' && c.char = '(' then none
    else
      (titleFrom? closing (!escaped && c.char = '\\') rest).map fun (text, rest) =>
        (c :: text, rest)

/-- A title, and what follows it. -/
def title? : Chars → Option (Chars × Chars)
  | ⟨'"', _, _⟩ :: rest => titleFrom? '"' false rest
  | ⟨'\'', _, _⟩ :: rest => titleFrom? '\'' false rest
  | ⟨'(', _, _⟩ :: rest => titleFrom? ')' false rest
  | _ => none

/-- Text without the spaces and tabs at the start of its lines. -/
def dropIndents (atLineStart : Bool) : Chars → Chars
  | [] => []
  | c :: rest =>
    if atLineStart && isSpaceChar c.char then dropIndents true rest
    else c :: dropIndents (isLineEnd c.char) rest

/-- The target that a destination and a title spell. -/
def ofChars (destination title : Chars) : Target :=
  ⟨Entity.resolve destination, Entity.resolve title⟩

/-- The target behind the text of a link, and what follows its closing parenthesis.
The opening one has been read. -/
def inline? (chars : Chars) : Option (Target × Chars) := do
  let (destination, rest) ← destination? (Chars.dropGaps chars)
  let inner := Chars.dropGaps rest
  match inner with
  | ⟨')', _, _⟩ :: rest => some (ofChars destination [], rest)
  | _ =>
    if inner.length < rest.length then
      let (title, rest) ← title? inner
      match Chars.dropGaps rest with
      | ⟨')', _, _⟩ :: rest => some (ofChars destination (dropIndents false title), rest)
      | _ => none
    else none

/-- What follows the end of the current line, if nothing but spaces comes before
it. -/
def afterLine? (chars : Chars) : Option Chars :=
  match chars.dropSpaces with
  | [] => some []
  | c :: rest => if isLineEnd c.char then some rest else none

end Target

namespace Definition

/-- The title at the end of a definition, and what follows its line. There must be
a blank before it. -/
def title? (rest : Chars) : Option (Chars × Chars) := do
  let inner := Chars.dropGaps rest
  if inner.length < rest.length then
    let (title, rest) ← Target.title? inner
    some (title, ← Target.afterLine? rest)
  else none

/-- A definition at the start of some text, and what follows it. Where the text
after the destination is no title, the definition ends with the destination, if
that is the end of its line. -/
def read? (chars : Chars) : Option (Definition × Chars) := do
  match chars.dropSpaces with
  | ⟨'[', _, _⟩ :: rest =>
    let (label, rest) ← Target.labelFrom? false rest
    match rest with
    | ⟨':', _, _⟩ :: rest =>
      if !Target.isLabel label then none
      else
        let start := Chars.dropGaps rest
        let (destination, rest) ← Target.destination? start
        if rest.length = start.length then none
        else
          let definition (title : Chars) : Definition :=
            ⟨Target.normalLabel label, Target.ofChars destination title⟩
          match title? rest with
          | some (title, rest) => some (definition title, rest)
          | none => (Target.afterLine? rest).map fun rest => (definition [], rest)
    | _ => none
  | _ => none

/-- All definitions at the start of some text of at most `fuel` characters, and what
follows them. -/
def readUpTo : Nat → Chars → List Definition × Chars
  | 0, chars => ([], chars)
  | fuel + 1, chars =>
    match read? chars with
    | some (definition, rest) =>
      let (definitions, rest) := readUpTo fuel rest
      (definition :: definitions, rest)
    | none => ([], chars)

/-- All definitions at the start of some text, and what follows them. -/
def readAll (chars : Chars) : List Definition × Chars :=
  readUpTo chars.length chars

/-- The target of a label. The first definition counts. -/
def find? (definitions : List Definition) (label : Chars) : Option Target :=
  if Target.isLabel label then
    let label := Target.normalLabel label
    (definitions.find? fun definition => definition.label = label).map Definition.target
  else none

end Definition

end MarkdownFormat
