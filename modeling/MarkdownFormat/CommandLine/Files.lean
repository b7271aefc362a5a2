/-
# Files

A tree of files as seen from one folder. A file goes by the steps that lead to it,
and a folder is there if a file lies somewhere below it, as are the starting folder
and the root. Writing replaces a file or adds one to a folder; it creates no folder.
-/

import MarkdownFormat.Text.Utf8

namespace MarkdownFormat

/-- Where a file lies. -/
structure Path where
  /-- The names of the folders on the way and of the file. An empty name stands for
  the root. -/
  steps : List String
  /-- Whether the path can only be that of a folder. -/
  toFolder : Bool
  deriving DecidableEq, Repr

namespace Path

/-- Divides a text at its slashes. -/
def divide : List Char → List (List Char)
  | [] => [[]]
  | c :: rest =>
    if c = '/' then [] :: divide rest
    else match divide rest with
      | [] => [[c]]
      | name :: names => (c :: name) :: names

/-- Whether a step stays where it is. -/
def staysPut (name : List Char) : Bool :=
  name = [] || name = ['.']

/-- The path that a text spells. -/
def ofString (text : String) : Path :=
  let names := divide text.toList
  let root := if text.toList.head? = some '/' then [""] else []
  ⟨root ++ (names.filter fun name => !staysPut name).map String.ofList,
    names.getLast?.any staysPut⟩

end Path

/-- The files of a tree, each with the steps that lead to it. -/
abbrev Files := List (List String × Bytes)

/-- Why a file cannot be written. -/
inductive WriteFault
  /-- A folder on the way is missing. -/
  | missingFolder
  /-- There is a file where a folder is needed. -/
  | notFolder
  /-- There is a folder in its place. -/
  | isFolder
  deriving DecidableEq, Repr

/-- The wording of a fault, with its number. -/
def WriteFault.message : WriteFault → String
  | .missingFolder => "No such file or directory (os error 2)"
  | .notFolder => "Not a directory (os error 20)"
  | .isFolder => "Is a directory (os error 21)"

namespace Files

/-- The contents of a file. -/
def read? (files : Files) (path : Path) : Option Bytes :=
  if path.toFolder then none else files.lookup path.steps

/-- Whether some steps lead to a folder. -/
def isFolder (files : Files) (steps : List String) : Bool :=
  steps = [] || steps = [""]
    || files.any fun file => steps.isPrefixOf file.1 && steps.length < file.1.length

/-- What is wrong with some steps that must lead to a folder. -/
def folderFault? (files : Files) (steps : List String) : Option WriteFault :=
  if files.isFolder steps then none
  else if (files.lookup steps).isSome then some .notFolder
  else some .missingFolder

/-- Replaces the contents of a file, or adds the file. -/
def put (files : Files) (steps : List String) (contents : Bytes) : Files :=
  match files with
  | [] => [(steps, contents)]
  | file :: rest =>
    if file.1 = steps then (steps, contents) :: rest else file :: put rest steps contents

/-- Writes a file. -/
def write (files : Files) (path : Path) (contents : Bytes) : Except WriteFault Files :=
  let parents := (List.range path.steps.length).map fun count => path.steps.take count
  match parents.findSome? files.folderFault? with
  | some fault => .error fault
  | none =>
    if path.toFolder || files.isFolder path.steps then .error .isFolder
    else .ok (files.put path.steps contents)

/-- The tree of some named files. -/
def ofList (named : List (String × Bytes)) : Files :=
  named.foldl (fun files file => files.put (Path.ofString file.1).steps file.2) []

end Files

end MarkdownFormat
