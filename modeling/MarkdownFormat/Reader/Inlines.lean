/-
# Reading inlines

The text of a paragraph or heading is read from left to right into parts. Code
spans, raw HTML and autolinks are taken first wherever they begin. An opening
bracket is kept until its closing bracket shows whether the two make a link; a link
makes all brackets before it plain text, since links do not nest.
-/

import MarkdownFormat.Reader.Delimiter
import MarkdownFormat.Reader.Html
import MarkdownFormat.Reader.Target

namespace MarkdownFormat.Inlines

/-- What the reading of inlines depends on. -/
structure Context where
  source : Bytes
  definitions : List Definition
  /-- Whether tildes strike out text. -/
  strikethrough : Bool

/-- An opening bracket. -/
structure Bracket where
  image : Bool
  start : Nat
  /-- Whether a link may still begin here. -/
  active : Bool
  /-- What follows the bracket. -/
  content : Chars
  /-- Where the text of the bracket itself stops. -/
  stop : Nat

/-- A part of the text that has been read. -/
inductive Part
  | inline (inline : Inline)
  | bracket (bracket : Bracket)

/-- The state of the reading. -/
structure State where
  /-- The parts so far, the latest first. -/
  parts : List Part := []
  /-- The character before the next one. -/
  before : Char := '\n'

/-- The events of some text. -/
def textEvents (chars : Chars) : List PlacedEvent :=
  match chars with
  | [] => []
  | first :: _ => [⟨.text chars.string, ⟨first.start, chars.stopOr first.stop⟩⟩]

namespace State

/-- Adds events that have been read. -/
def add (state : State) (before : Char) (events : List PlacedEvent) : State :=
  { parts := .inline (.finished events) :: state.parts, before }

/-- Adds some text. -/
def addText (state : State) (chars : Chars) : State :=
  match chars.getLast? with
  | some last => state.add last.char (textEvents chars)
  | none => state

end State

/-- The events of an opening bracket that is text. -/
def Bracket.events (bracket : Bracket) : List PlacedEvent :=
  [⟨.text (if bracket.image then "![" else "["), ⟨bracket.start, bracket.stop⟩⟩]

/-- A part in which brackets are text. -/
def Part.toInline : Part → Inline
  | .inline part => part
  | .bracket opening => .finished opening.events

/-- The events of some parts, the latest first. -/
def resolve (parts : List Part) : List PlacedEvent :=
  Inline.resolve (parts.reverse.map Part.toInline)

/-- Separates the parts behind the latest bracket from that bracket and the parts
before it. -/
def splitAtBracket : List Part → Option (List Part × Bracket × List Part)
  | [] => none
  | .bracket bracket :: parts => some ([], bracket, parts)
  | part :: parts => (splitAtBracket parts).map fun (inner, bracket, outer) =>
    (part :: inner, bracket, outer)

/-- Makes all brackets that could begin a link plain text. -/
def deactivate (parts : List Part) : List Part :=
  parts.map fun part =>
    match part with
    | .bracket bracket => .bracket { bracket with active := bracket.active && bracket.image }
    | part => part

/-- The content of a code span up to its closing fence, the latest first, and what
follows the fence. `run` is the length of the backtick run just read. -/
def codeSpan? (fence run : Nat) (content : List SourceChar) : Chars → Option (Chars × Chars)
  | [] => if run = fence then some (content, []) else none
  | c :: rest =>
    if c.char = '\x60' then codeSpan? fence (run + 1) (c :: content) rest
    else if run = fence then some (content, c :: rest)
    else codeSpan? fence 0 (c :: content) rest

/-- The content of a code span: line endings become spaces, and one space at each
end is taken away unless there is nothing else. -/
def codeContent (text : List Char) : List Char :=
  let joined := text.map fun c => if isLineEnd c then ' ' else c
  if joined.head? = some ' ' && joined.getLast? = some ' ' && joined.any (· ≠ ' ') then
    joined.tail.dropLast
  else joined

/-- Whether a character can stand in the scheme of an address. -/
def isSchemeChar (c : Char) : Bool :=
  c.isAlphanum || c = '+' || c = '.' || c = '-'

/-- The web address at the start of some text, and what follows the closing angle
bracket. -/
def webAddress? (chars : Chars) : Option (Chars × Chars) :=
  let scheme := chars.takeWhile fun c => isSchemeChar c.char
  let rest := chars.drop scheme.length
  if 2 ≤ scheme.length && scheme.length ≤ 32 && scheme.head?.any (fun c => c.char.isAlpha) then
    match rest with
    | ⟨':', _, _⟩ :: _ =>
      let inner := rest.takeWhile fun c =>
        0x20 < c.char.toNat && c.char.toNat ≠ 0x7F && c.char ≠ '<' && c.char ≠ '>'
      match rest.drop inner.length with
      | ⟨'>', _, _⟩ :: rest => some (scheme ++ inner, rest)
      | _ => none
    | _ => none
  else none

/-- Whether a character can stand before the at sign of a mail address. -/
def isMailboxChar (c : Char) : Bool :=
  c.isAlphanum || ".!#$%&'*+/=?^_\x60\x7b|\x7d~-".toList.contains c

/-- Whether a list of characters is a part of a host name. -/
def isHostPart (part : List Char) : Bool :=
  part ≠ [] && part.length ≤ 63 && part.head? ≠ some '-' && part.getLast? ≠ some '-'

/-- The parts of a text between dots. -/
def splitAtDots : List Char → List (List Char)
  | [] => [[]]
  | c :: rest =>
    if c = '.' then [] :: splitAtDots rest
    else match splitAtDots rest with
      | part :: parts => (c :: part) :: parts
      | [] => [[c]]

/-- The mail address at the start of some text, and what follows the closing angle
bracket. -/
def mailAddress? (chars : Chars) : Option (Chars × Chars) :=
  let mailbox := chars.takeWhile fun c => isMailboxChar c.char
  match chars.drop mailbox.length with
  | sign@⟨'@', _, _⟩ :: rest =>
    let host := rest.takeWhile fun c => c.char.isAlphanum || c.char = '-' || c.char = '.'
    match rest.drop host.length with
    | ⟨'>', _, _⟩ :: after =>
      if mailbox ≠ [] && (splitAtDots (Chars.text host)).all isHostPart then
        some (mailbox ++ sign :: host, after)
      else none
    | _ => none
  | _ => none

/-- The events of an address between angle brackets. -/
def addressEvents (form : LinkForm) (start stop : Nat) (address : Chars) : List PlacedEvent :=
  Inline.wrap (.link form address.string "") ⟨start, stop⟩ (textEvents address)

/-- Where a construct stops that ends before the rest of a text. -/
def stopBefore (chars rest : Chars) : Nat :=
  (Chars.before chars rest).stopOr 0

/-- Reads a backtick run and the code span it begins, if it begins one. -/
def readBackticks (state : State) (chars : Chars) : State × Chars :=
  let ticks := chars.takeWhile fun c => c.char = '\x60'
  let rest := chars.drop ticks.length
  match codeSpan? ticks.length 0 [] rest with
  | some (content, after) =>
    let content := Chars.text (content.drop ticks.length).reverse
    let range : Segment := ⟨chars.startOr 0, stopBefore chars after⟩
    (state.add '\x60' [⟨.code (String.ofList (codeContent content)), range⟩], after)
  | none => (state.addText ticks, rest)

/-- The content of raw HTML between two offsets. A tag is cut out of the containers
around it; anything else is taken as it stands in the source. -/
def htmlContent (source : Bytes) (range : Segment) (html : Chars) : String :=
  match html with
  | _ :: ⟨'!', _, _⟩ :: _ | _ :: ⟨'?', _, _⟩ :: _ =>
    String.ofList (Utf8.decodeLossy (range.bytes source))
  | _ => html.spelling

/-- Reads an angle bracket and what it begins. -/
def readAngle (source : Bytes) (state : State) (bracket : SourceChar) (rest : Chars) :
    State × Chars :=
  match webAddress? rest with
  | some (address, after) =>
    (state.add '>' (addressEvents .autolink bracket.start (stopBefore rest after) address), after)
  | none =>
  match mailAddress? rest with
  | some (address, after) =>
    (state.add '>' (addressEvents .email bracket.start (stopBefore rest after) address), after)
  | none =>
  match Html.afterInline? rest with
  | some after =>
    let range : Segment := ⟨bracket.start, stopBefore rest after⟩
    let content := htmlContent source range (bracket :: Chars.before rest after)
    (state.add '>' [⟨.inlineHtml content, range⟩], after)
  | none => (state.addText [bracket], rest)

/-- Reads an ampersand and the reference it begins, if it begins one. -/
def readAmpersand (state : State) (ampersand : SourceChar) (rest : Chars) : State × Chars :=
  match Entity.read? rest with
  | some (text, after) =>
    let range := ⟨ampersand.start, stopBefore rest after⟩
    (state.add ';' [⟨.text (String.ofList text), range⟩], after)
  | none => (state.addText [ampersand], rest)

/-- Reads a line ending that starts at the given offset, and passes over the spaces
at the start of the next line. -/
def readLineEnd (state : State) (lineBreak : Event) (start : Nat) (lineEnd : SourceChar)
    (rest : Chars) : State × Chars :=
  (state.add '\n' [⟨lineBreak, ⟨start, lineEnd.stop⟩⟩], rest.dropSpaces)

/-- Reads a backslash and what it escapes. -/
def readBackslash (state : State) (backslash : SourceChar) (rest : Chars) : State × Chars :=
  match rest with
  | next :: after =>
    if isAsciiPunctuation next.char then (state.addText [next], after)
    else if isLineEnd next.char then readLineEnd state .hardBreak backslash.start next after
    else (state.addText [backslash], rest)
  | [] => (state.addText [backslash], rest)

/-- Reads a run of delimiters. -/
def readRun (state : State) (char : Char) (chars : Chars) : State × Chars :=
  let run := chars.takeWhile fun c => c.char = char
  let rest := chars.drop run.length
  let delimiters := Run.between state.before ((Chars.peek rest).getD '\n') char run.length
    (chars.startOr 0)
  if char = '~' && 2 < run.length then (state.addText run, rest)
  else ({ parts := .inline (.delimiters delimiters) :: state.parts, before := char }, rest)

/-- The target of a bracketed text, and what follows the link. After the closing
bracket comes a target in parentheses, or a label in brackets; without either, the
text itself is the label. An empty label does not count as part of the link. -/
def target? (definitions : List Definition) (text rest : Chars) :
    Option (LinkForm × Target × Chars × Chars) :=
  let inline? := match rest with
    | ⟨'(', _, _⟩ :: rest => Target.inline? rest
    | _ => none
  match inline? with
  | some (target, after) => some (.inline, target, Chars.before rest after, after)
  | none =>
    let label? := match rest with
      | ⟨'[', _, _⟩ :: rest => Target.labelFrom? false rest
      | _ => none
    let own := Target.labelFrom? false (text ++ [⟨']', 0, 0⟩])
    let ownLabel := match own with
      | some (label, []) => label
      | _ => []
    let (label, suffix, after) := match label? with
      | some ([], after) => (ownLabel, [], after)
      | some (label, after) =>
        if Target.isLabel label then (label, Chars.before rest after, after)
        else (ownLabel, [], rest)
      | none => (ownLabel, [], rest)
    (Definition.find? definitions label).map fun target => (.reference, target, suffix, after)

/-- Reads a closing bracket, and makes a link or an image of the text since the
opening one if it has a target. -/
def readClosing (context : Context) (state : State) (closing : SourceChar) (rest : Chars) :
    State × Chars :=
  match splitAtBracket state.parts with
  | none => (state.addText [closing], rest)
  | some (inner, bracket, outer) =>
    let plain := { state with
      parts := inner ++ Part.inline (.finished bracket.events) :: outer }
    let asText := (plain.addText [closing], rest)
    if !bracket.active then asText
    else
      let text := bracket.content.takeWhile fun c => c.start < closing.start
      match target? context.definitions text rest with
      | none => asText
      | some (form, target, suffix, after) =>
        let stop := suffix.stopOr closing.stop
        let tag := if bracket.image then Tag.image target.destination target.title
          else .link form target.destination target.title
        let events := Inline.wrap tag ⟨bracket.start, stop⟩ (resolve inner)
        let outer := if bracket.image then outer else deactivate outer
        (State.add ⟨outer, ')'⟩ ')' events, after)

/-- Whether a character may begin something other than text. -/
def isSpecial (strikethrough : Bool) (c : Char) : Bool :=
  isLineEnd c || "\\\x60*_[]!<&".toList.contains c || (strikethrough && c = '~')

/-- Reads text up to the next character that may begin something else. At the end of
a line, two spaces make a hard break. -/
def readText (context : Context) (state : State) (chars : Chars) : State × Chars :=
  let text := chars.takeWhile fun c => !isSpecial context.strikethrough c.char
  let rest := chars.drop text.length
  match rest with
  | [] => (state.addText text, rest)
  | lineEnd :: after =>
    if isLineEnd lineEnd.char then
      let visible := dropTrailing (fun c => isSpaceChar c.char) text
      let spaces := text.drop visible.length
      let state := state.addText visible
      if 2 ≤ spaces.length && spaces.all (fun c => c.char = ' ') then
        readLineEnd state .hardBreak (Chars.startOr spaces lineEnd.start) lineEnd after
      else readLineEnd state .softBreak lineEnd.start lineEnd after
    else (state.addText text, rest)

/-- Opens a bracket. -/
def openBracket (state : State) (image : Bool) (start : Nat) (bracket : SourceChar)
    (rest : Chars) : State × Chars :=
  ({ parts := .bracket ⟨image, start, true, rest, bracket.stop⟩ :: state.parts, before := '[' },
    rest)

/-- Reads the next part of a text. -/
def readPart (context : Context) (state : State) (c : SourceChar) (rest : Chars) :
    State × Chars :=
  match c.char with
  | '\\' => readBackslash state c rest
  | '\x60' => readBackticks state (c :: rest)
  | '*' => readRun state '*' (c :: rest)
  | '_' => readRun state '_' (c :: rest)
  | '[' => openBracket state false c.start c rest
  | '!' =>
    match rest with
    | bracket@⟨'[', _, _⟩ :: after => openBracket state true c.start bracket after
    | _ => (state.addText [c], rest)
  | ']' => readClosing context state c rest
  | '<' => readAngle context.source state c rest
  | '&' => readAmpersand state c rest
  | '~' =>
    if context.strikethrough then readRun state '~' (c :: rest)
    else readText context state (c :: rest)
  | _ => readText context state (c :: rest)

/-- Reads a text of at most `fuel` parts. -/
def readUpTo (context : Context) : Nat → State → Chars → State
  | 0, state, _ => state
  | _ + 1, state, [] => state
  | fuel + 1, state, c :: rest =>
    let (state, rest) := readPart context state c rest
    readUpTo context fuel state rest

/-- The events of a text. -/
def events (context : Context) (text : Chars) : List PlacedEvent :=
  resolve (readUpTo context text.length {} text).parts

end MarkdownFormat.Inlines
