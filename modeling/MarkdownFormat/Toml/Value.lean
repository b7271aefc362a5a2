/-
# Values of a configuration file

A file is a table of keys with values, and some of the values are tables again. A
table may be filled from several places of a file, but only in certain ways: by
further dotted keys if dotted keys began it, by a header of its own if it has so far
only been named on the way to another one, and never once it has been written out.
`Origin` records how a table came about. `define` and `descend` are the two ways to
reach an inner table: by a dotted key and by a header.
-/

namespace MarkdownFormat.Toml

/-- How a table came about. -/
inductive Origin
  /-- It has a header of its own. -/
  | header
  /-- A header named it on the way to an inner table. -/
  | implied
  /-- A dotted key named it on the way to its last part. -/
  | dotted
  /-- It is written out between braces. -/
  | braces
  deriving DecidableEq, Repr

/-- A value of a configuration file. -/
inductive Value
  | string (text : String)
  | integer (n : Int)
  /-- A float, a boolean, a date or a time. -/
  | other
  /-- Values between brackets. -/
  | array (items : List Value)
  | table (origin : Origin) (entries : List (String × Value))
  /-- Tables with one repeated header. -/
  | tables (items : List (List (String × Value)))
  deriving Repr

/-- The keys of a table with their values, each key once. -/
abbrev Entries := List (String × Value)

namespace Entries

/-- Changes the value of one key, or adds the key at the end. -/
def alter (key : String) (edit : Option Value → Option Value) : Entries → Option Entries
  | [] => (edit none).map fun value => [(key, value)]
  | entry :: rest =>
    if entry.1 = key then (edit (some entry.2)).map fun value => (key, value) :: rest
    else (alter key edit rest).map fun rest => entry :: rest

/-- Adds a key that is not there yet. -/
def add (key : String) (value : Value) (entries : Entries) : Option Entries :=
  entries.alter key fun
    | none => some value
    | some _ => none

/-- Applies an edit to the last of some tables. -/
def editLast (edit : Entries → Option Entries) : List Entries → Option (List Entries)
  | [] => none
  | [entries] => (edit entries).map fun entries => [entries]
  | entries :: rest => (editLast edit rest).map fun rest => entries :: rest

/-- Adds the value of a dotted key, given its parts before the last one. The inner
table must be one that dotted keys began; the tables on the way to it may also have
been named by headers. -/
def define (key : String) (value : Value) : List String → Entries → Option Entries
  | [], entries => entries.add key value
  | step :: path, entries => entries.alter step fun
    | none => (define key value path []).map (.table .dotted)
    | some (.table origin inner) =>
      if origin = .dotted ∨ (origin = .implied ∧ path ≠ []) then
        (define key value path inner).map (.table origin)
      else none
    | some (.tables items) =>
      if path = [] then none else (editLast (define key value path) items).map .tables
    | some _ => none

/-- Applies an edit to the table at the end of a header's path. Headers reach every
table but those between braces. -/
def descend (edit : Entries → Option Entries) : List String → Entries → Option Entries
  | [], entries => edit entries
  | step :: path, entries => entries.alter step fun
    | none => (descend edit path []).map (.table .implied)
    | some (.table .braces _) => none
    | some (.table origin inner) => (descend edit path inner).map (.table origin)
    | some (.tables items) => (editLast (descend edit path) items).map .tables
    | some _ => none

end Entries

end MarkdownFormat.Toml
