/-
# Configuration files

A file is a sequence of sections. The first has no header and fills the outermost
table; each of the others has the header of a table or of one more table of a
repeated kind. A section is a list of keys with values. `read?` refuses a file that
is malformed or defines something twice. Values are nested, and keys divided, only
to a fixed depth.
-/

import MarkdownFormat.Toml.Scalar

namespace MarkdownFormat.Toml

open Scanner

/-- Least number of nested brackets, and of parts of a key, that is refused. -/
def depthLimit : Nat := 80

/-- Whether a character may stand in a key without quotes. -/
def isBare (c : Char) : Bool :=
  c.isAlphanum || c = '_' || c = '-'

/-- One part of a key. -/
def keyPart : Scanner String := do
  spaces
  let part ← Scalar.shortString '"' true <|> Scalar.shortString '\'' false <|> (do
    let bare ← run isBare
    check (bare ≠ [])
    pure (String.ofList bare))
  spaces
  pure part

/-- A key: the parts before the last one, and the last. -/
structure Key where
  path : List String
  last : String
  deriving DecidableEq, Repr

/-- A key, whose parts are separated by dots. -/
def key : Scanner Key := do
  let parts ← separated '.' keyPart
  check (parts.length < depthLimit)
  pure ⟨parts.dropLast, parts.getLast?.getD ""⟩

/-- A key and its value. -/
structure Definition where
  key : Key
  value : Value
  deriving Repr

/-- Adds definitions to a table. -/
def Entries.defineAll (entries : Entries) (definitions : List Definition) : Option Entries :=
  definitions.foldlM
    (fun entries (definition : Definition) =>
      entries.define definition.key.last definition.value definition.key.path) entries

/-- A definition, given a scanner for values. -/
def definition (value : Scanner Value) : Scanner Definition := do
  let key ← key
  symbol '='
  spaces
  let value ← value
  pure ⟨key, value⟩

/-- Values between brackets. There may be a comma after the last one. -/
def array (value : Scanner Value) : Scanner Value := do
  symbol '['
  let items ← (do
      let items ← separated ',' (do gap; let item ← value; gap; pure item)
      let _ ← optional (symbol ',')
      pure items)
    <|> pure []
  gap
  symbol ']'
  pure (.array items)

/-- Definitions between braces, on one line. -/
def bracedTable (value : Scanner Value) : Scanner Value := do
  symbol '\x7b'
  let definitions ←
    separated ',' (do let read ← definition value; spaces; pure read) <|> pure []
  spaces
  symbol '\x7d'
  match Entries.defineAll [] definitions with
  | some entries => pure (.table .braces entries)
  | none => failure

/-- A value with at most the given number of brackets around its parts. -/
def value : Nat → Scanner Value
  | 0 => Scalar.value
  | depth + 1 => Scalar.value <|> array (value depth) <|> bracedTable (value depth)

/-- Ways in which a section begins. -/
inductive Header
  /-- The header of a table. -/
  | table (key : Key)
  /-- The header of one more of several tables. -/
  | oneMore (key : Key)
  deriving DecidableEq, Repr

/-- A header line. -/
def header : Scanner Header := do
  let header ←
    (do word "[["; let key ← key; word "]]"; pure (.oneMore key))
    <|> (do symbol '['; let key ← key; symbol ']'; pure (.table key))
  lineRest
  pure header

/-- The definitions of a section. -/
def definitions : Scanner (List Definition) :=
  many (do
    let read ← definition (value (depthLimit - 1))
    lineRest
    gap
    pure read)

/-- A section with a header. -/
structure Section where
  header : Header
  definitions : List Definition
  deriving Repr

/-- A header and the definitions below it. -/
def headed : Scanner Section := do
  let header ← header
  gap
  let definitions ← definitions
  pure ⟨header, definitions⟩

/-- A comment at the end of a file may lack a line ending. -/
def fileEnd : Scanner Unit := do
  let _ ← optional comment
  atEnd

/-- A file: the definitions before the first header, and the sections. A byte order
mark at its start does not count. -/
def file : Scanner (List Definition × List Section) := do
  let _ ← optional (symbol '\ufeff')
  gap
  let definitions ← definitions
  let sections ← many headed
  fileEnd
  pure (definitions, sections)

/-- Adds a section to what the ones before it have defined. -/
def Entries.addSection (entries : Entries) (part : Section) : Option Entries :=
  match part.header with
  | .table key =>
    entries.descend (fun parent => parent.alter key.last fun
      | none => (Entries.defineAll [] part.definitions).map (.table .header)
      | some (.table .implied inner) =>
        (Entries.defineAll inner part.definitions).map (.table .header)
      | some _ => none) key.path
  | .oneMore key =>
    entries.descend (fun parent => parent.alter key.last fun
      | none => (Entries.defineAll [] part.definitions).map fun table => .tables [table]
      | some (.tables items) =>
        (Entries.defineAll [] part.definitions).map fun table => .tables (items ++ [table])
      | some _ => none) key.path

/-- The outermost table of a file. -/
def read? (text : String) : Option Entries := do
  let ((definitions, sections), _) ← StateT.run file text.toList
  let entries ← Entries.defineAll [] definitions
  sections.foldlM Entries.addSection entries

end MarkdownFormat.Toml
