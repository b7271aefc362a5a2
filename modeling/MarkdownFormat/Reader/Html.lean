/-
# Raw HTML

Recognises tags, comments, processing instructions, declarations and CDATA
sections inside text, and the lines that begin or end a block of raw HTML.
-/

import MarkdownFormat.Reader.Chars

namespace MarkdownFormat.Html

/-- Whether a character can follow the first one of a tag name. -/
def isNameChar (c : Char) : Bool :=
  c.isAlphanum || c = '-'

/-- Whether a character can begin an attribute name. -/
def isAttributeStart (c : Char) : Bool :=
  c.isAlpha || c = '_' || c = ':'

/-- Whether a character can follow the first one of an attribute name. -/
def isAttributeChar (c : Char) : Bool :=
  c.isAlphanum || c = '_' || c = ':' || c = '.' || c = '-'

/-- Whether a character can stand in an attribute value without quotes. -/
def isUnquoted (c : Char) : Bool :=
  !isGap c && c ≠ '"' && c ≠ '\'' && c ≠ '=' && c ≠ '<' && c ≠ '>' && c ≠ '\x60'

/-- What follows a tag name. -/
def afterName? : Chars → Option Chars
  | [] => none
  | c :: rest =>
    if c.char.isAlpha then some (rest.dropWhile fun c => isNameChar c.char) else none

/-- What follows the given character, wherever it comes next. -/
def afterNext? (wanted : Char) : Chars → Option Chars
  | [] => none
  | c :: rest => if c.char = wanted then some rest else afterNext? wanted rest

/-- What follows an attribute value. -/
def afterValue? : Chars → Option Chars
  | [] => none
  | c :: rest =>
    if c.char = '"' || c.char = '\'' then afterNext? c.char rest
    else if isUnquoted c.char then some (rest.dropWhile fun c => isUnquoted c.char)
    else none

/-- What follows the attributes of a tag, at most `fuel` of them. Each has a blank
before it. -/
def afterAttributes? : Nat → Chars → Option Chars
  | 0, chars => some chars
  | fuel + 1, chars =>
    let inner := chars.dropGaps
    match inner with
    | [] => some chars
    | c :: rest =>
      if inner.length < chars.length && isAttributeStart c.char then
        let named := rest.dropWhile fun c => isAttributeChar c.char
        match Chars.dropGaps named with
        | ⟨'=', _, _⟩ :: value =>
          match afterValue? (Chars.dropGaps value) with
          | some next => afterAttributes? fuel next
          | none => none
        | _ => afterAttributes? fuel named
      else some chars

/-- What follows an opening tag. The angle bracket has been read. -/
def afterOpenTag? (chars : Chars) : Option Chars := do
  let named ← afterName? chars
  let rest ← afterAttributes? named.length named
  match Chars.dropGaps rest with
  | ⟨'>', _, _⟩ :: rest => some rest
  | ⟨'/', _, _⟩ :: ⟨'>', _, _⟩ :: rest => some rest
  | _ => none

/-- What follows a closing tag. The angle bracket and the slash have been read. -/
def afterCloseTag? (chars : Chars) : Option Chars := do
  match Chars.dropGaps (← afterName? chars) with
  | ⟨'>', _, _⟩ :: rest => some rest
  | _ => none

/-- What follows a comment. What opens it has been read. -/
def afterComment? (chars : Chars) : Option Chars :=
  match chars with
  | ⟨'>', _, _⟩ :: rest => some rest
  | ⟨'-', _, _⟩ :: ⟨'>', _, _⟩ :: rest => some rest
  | _ => Chars.afterFirst? false ['-', '-', '>'] chars

/-- What follows a piece of raw HTML. The angle bracket has been read. -/
def afterInline? (chars : Chars) : Option Chars :=
  match chars with
  | ⟨'/', _, _⟩ :: rest => afterCloseTag? rest
  | ⟨'?', _, _⟩ :: rest => Chars.afterFirst? false ['?', '>'] rest
  | ⟨'!', _, _⟩ :: rest =>
    match Chars.after? false ['-', '-'] rest with
    | some comment => afterComment? comment
    | none =>
      match Chars.after? false "[CDATA[".toList rest with
      | some data => Chars.afterFirst? false [']', ']', '>'] data
      | none =>
        if (Chars.peek rest).any Char.isAlpha then afterNext? '>' rest else none
  | _ => afterOpenTag? chars

/-- How a block of raw HTML ends. -/
inductive Ending
  /-- With the line that holds one of the given words. -/
  | containing (words : List (List Char))
  /-- With a blank line. -/
  | blankLine
  deriving DecidableEq, Repr

/-- Elements with text of their own; a block that begins with one of them ends with
a closing tag. -/
def rawElements : List (List Char) :=
  ["pre", "script", "style", "textarea"].map String.toList

/-- Elements that begin a block of raw HTML even below a paragraph. -/
def blockElements : List (List Char) :=
  ["address", "article", "aside", "base", "basefont", "blockquote", "body", "caption", "center",
    "col", "colgroup", "dd", "details", "dialog", "dir", "div", "dl", "dt", "fieldset",
    "figcaption", "figure", "footer", "form", "frame", "frameset", "h1", "h2", "h3", "h4", "h5",
    "h6", "head", "header", "hr", "html", "iframe", "legend", "li", "link", "main", "menu",
    "menuitem", "nav", "noframes", "ol", "optgroup", "option", "p", "param", "search", "section",
    "summary", "table", "tbody", "td", "tfoot", "th", "thead", "title", "tr", "track",
    "ul"].map String.toList

/-- The lower-case name at the start of some text, and what follows it. -/
def splitName (chars : Chars) : List Char × Chars :=
  ((chars.takeWhile fun c => c.char.isAlphanum).map fun c => c.char.toLower,
    chars.dropWhile fun c => c.char.isAlphanum)

/-- Whether a tag name ends here: at a blank, at the end of the line or of the tag. -/
def nameEnds (selfClosing : Bool) : Chars → Bool
  | [] => true
  | ⟨'/', _, _⟩ :: ⟨'>', _, _⟩ :: _ => selfClosing
  | c :: _ => isGap c.char || c.char = '>'

/-- The end of a block that begins with one of the special openings. The angle
bracket has been read. -/
def specialEnding? (chars : Chars) : Option Ending :=
  let (name, rest) := splitName chars
  if rawElements.contains name && nameEnds false rest then
    some (.containing (rawElements.map fun name => ['<', '/'] ++ name ++ ['>']))
  else match chars with
    | ⟨'?', _, _⟩ :: _ => some (.containing [['?', '>']])
    | ⟨'!', _, _⟩ :: ⟨'-', _, _⟩ :: ⟨'-', _, _⟩ :: _ =>
      some (.containing [['-', '-', '>']])
    | ⟨'!', _, _⟩ :: rest =>
      if (Chars.after? false "[CDATA[".toList rest).isSome then
        some (.containing [[']', ']', '>']])
      else if (Chars.peek rest).any Char.isAlpha then some (.containing [['>']])
      else none
    | _ => none

/-- Whether a line begins with the tag of a block element. The angle bracket has
been read. -/
def opensBlockElement (chars : Chars) : Bool :=
  let inner := match chars with
    | ⟨'/', _, _⟩ :: rest => rest
    | _ => chars
  let (name, rest) := splitName inner
  blockElements.contains name && nameEnds true rest

/-- Whether a line consists of a single tag. The angle bracket has been read. -/
def isLoneTag (chars : Chars) : Bool :=
  let rest? := match chars with
    | ⟨'/', _, _⟩ :: rest => afterCloseTag? rest
    | _ => if rawElements.contains (splitName chars).1 then none else afterOpenTag? chars
  rest?.any fun rest => rest.isBlank

/-- The end of the block of raw HTML that a line begins, if it begins one. A lone
tag does not, below a paragraph. -/
def ending? (belowParagraph : Bool) : Chars → Option Ending
  | ⟨'<', _, _⟩ :: rest =>
    match specialEnding? rest with
    | some ending => some ending
    | none =>
      if opensBlockElement rest || (!belowParagraph && isLoneTag rest) then some .blankLine
      else none
  | _ => none

/-- Whether a block ends with the given line. -/
def Ending.endsWith (line : Chars) : Ending → Bool
  | .containing words => words.any fun word => (line.afterFirst? true word).isSome
  | .blankLine => false

end MarkdownFormat.Html
