/-
# Arguments

The words of a command line. A long option has a value in the same word after an
equals sign or in the next word; the short form of `--output` also takes what
follows it directly. After two hyphens every word is the name of the input. No
option may be given twice, and a value that stands in a word of its own does not
begin with a hyphen unless it is a hyphen. Words are read from left to right; the
first that asks for the help or the version, or that is at fault, is the last one
read.
-/

import MarkdownFormat.Config.Overrides

namespace MarkdownFormat

/-- The options that have a value. -/
inductive ValueOption
  | output
  | config
  | indentStyle
  | headingStyle
  | breakStyle
  | breakLength
  | nestedListLength
  deriving DecidableEq, Repr

namespace ValueOption

/-- All options that have a value. -/
def all : List ValueOption :=
  [.output, .config, .indentStyle, .headingStyle, .breakStyle, .breakLength, .nestedListLength]

/-- The name of an option. -/
def name : ValueOption → String
  | .output => "output"
  | .config => "config"
  | .indentStyle => "indent-style"
  | .headingStyle => "heading-style"
  | .breakStyle => "thematic-break-style"
  | .breakLength => "thematic-break-length"
  | .nestedListLength => "nested-list-length"

/-- The option of a name. -/
def ofName? (text : String) : Option ValueOption :=
  named? name all text

/-- What stands for the value of an option in the help. -/
def placeholder : ValueOption → String
  | .output => "OUTPUT"
  | .config => "CONFIG"
  | .indentStyle | .headingStyle | .breakStyle => "STYLE"
  | .breakLength | .nestedListLength => "LENGTH"

/-- What the help says about an option. -/
def about : ValueOption → String
  | .output => "Path to output file. Writes stdout when absent or `-`"
  | .config => "TOML file with renderer options. Flags override its values"
  | .indentStyle => "Indentation of indented code blocks: spaces, tabs"
  | .headingStyle => "Heading style: atx, atx-surround, setext, full-width-setext"
  | .breakStyle => "Thematic break character: dashed, starred, underlined"
  | .breakLength => "Thematic break length, at least 3"
  | .nestedListLength => "Multiplier of the list item continuation indent, at least 1"

end ValueOption

/-- What a command line asks for. -/
structure Arguments where
  /-- The file to be read. -/
  input : Option String := none
  /-- The file to be written. -/
  output : Option String := none
  /-- The configuration file. -/
  config : Option String := none
  /-- The settings given directly. -/
  settings : Overrides := {}
  strikethrough : Bool := false
  /-- Whether the input is only compared with its formatted text. -/
  check : Bool := false
  deriving DecidableEq, Repr

/-- What is wrong with a command line. -/
inductive UsageFault
  | unknown (word : String)
  | missingValue (option : ValueOption)
  | unwantedValue (name : String)
  | invalidValue (name value : String)
  | repeated (name : String)
  deriving DecidableEq, Repr

/-- The wording of a usage fault. -/
def UsageFault.message : UsageFault → String
  | .unknown word => "unexpected argument '" ++ word ++ "'"
  | .missingValue option => "a value is required for '--" ++ option.name ++ "'"
  | .unwantedValue name => "'--" ++ name ++ "' takes no value"
  | .invalidValue name value => "invalid value '" ++ value ++ "' for '" ++ name ++ "'"
  | .repeated name => "'" ++ name ++ "' cannot be used more than once"

/-- Why the words of a command line are read no further. -/
inductive Interruption
  /-- The help is asked for. -/
  | help
  /-- The version of the program is asked for. -/
  | version
  | fault (cause : UsageFault)
  deriving DecidableEq, Repr

/-- The path that a value names. -/
def pathOf? (value : String) : Option String :=
  if value = "" then none else some value

namespace Arguments

/-- Sets what has not been set before. -/
def setOnce {α : Type} (name value : String) (present read : Option α)
    (set : Option α → Arguments) : Except Interruption Arguments :=
  match present, read with
  | some _, _ => .error (.fault (.repeated name))
  | none, none => .error (.fault (.invalidValue name value))
  | none, some new => .ok (set (some new))

/-- Takes the value of an option. -/
def give (arguments : Arguments) (option : ValueOption) (value : String) :
    Except Interruption Arguments :=
  let settings := arguments.settings
  match option with
  | .output => setOnce option.name value arguments.output (pathOf? value)
    ({ arguments with output := · })
  | .config => setOnce option.name value arguments.config (pathOf? value)
    ({ arguments with config := · })
  | .indentStyle => setOnce option.name value settings.indentStyle (IndentStyle.ofName? value)
    fun read => { arguments with settings := { settings with indentStyle := read } }
  | .headingStyle => setOnce option.name value settings.headingStyle (HeadingStyle.ofName? value)
    fun read => { arguments with settings := { settings with headingStyle := read } }
  | .breakStyle => setOnce option.name value settings.breakStyle (BreakStyle.ofName? value)
    fun read => { arguments with settings := { settings with breakStyle := read } }
  | .breakLength =>
    setOnce option.name value settings.breakLength (Digits.readLength? value.toList)
      fun read => { arguments with settings := { settings with breakLength := read } }
  | .nestedListLength =>
    setOnce option.name value settings.nestedListLength (Digits.readLength? value.toList)
      fun read => { arguments with settings := { settings with nestedListLength := read } }

/-- Takes the name of the input. There is only one. -/
def giveInput (arguments : Arguments) (word : String) : Except Interruption Arguments :=
  match arguments.input with
  | some _ => .error (.fault (.unknown word))
  | none => setOnce "INPUT" word none (pathOf? word) ({ arguments with input := · })

/-- Turns a switch on. -/
def switchOn (arguments : Arguments) (name : String) : Except Interruption Arguments :=
  match name with
  | "strikethrough" =>
    if arguments.strikethrough then .error (.fault (.repeated name))
    else .ok { arguments with strikethrough := true }
  | "check" =>
    if arguments.check then .error (.fault (.repeated name))
    else .ok { arguments with check := true }
  | "help" => .error .help
  | "version" => .error .version
  | _ => .error (.fault (.unknown name))

/-- Whether a name is that of a switch. -/
def isSwitch (name : String) : Bool :=
  name = "strikethrough" || name = "check" || name = "help" || name = "version"

/-- What has been read of a command line. -/
structure Progress where
  arguments : Arguments := {}
  /-- An option whose value is the next word. -/
  pending : Option ValueOption := none
  /-- Whether the words that follow are no options. -/
  optionsEnded : Bool := false

/-- Reads a long option, without its two hyphens. -/
def readLong (progress : Progress) (word : List Char) : Except Interruption Progress :=
  let name := String.ofList (word.takeWhile (· ≠ '='))
  let value? := (word.dropWhile (· ≠ '=')).tail?.map String.ofList
  match ValueOption.ofName? name, value? with
  | some option, none => .ok { progress with pending := some option }
  | some option, some value => do
    pure { progress with arguments := ← progress.arguments.give option value }
  | none, some _ =>
    .error (.fault (if isSwitch name then .unwantedValue name else .unknown name))
  | none, none => do
    pure { progress with arguments := ← progress.arguments.switchOn name }

/-- Reads a short option, without its hyphen. An equals sign before the value of
`-o` does not count. -/
def readShort (progress : Progress) : List Char → Except Interruption Progress
  | ['o'] => .ok { progress with pending := some .output }
  | 'o' :: '=' :: value | 'o' :: value => do
    pure { progress with arguments := ← progress.arguments.give .output (String.ofList value) }
  | 'h' :: _ => .error .help
  | 'V' :: _ => .error .version
  | word => .error (.fault (.unknown (String.ofList word)))

/-- Reads one word. -/
def readWord (progress : Progress) (word : String) : Except Interruption Progress :=
  let hyphens := word.toList.takeWhile (· = '-')
  match progress.pending with
  | some option =>
    if hyphens ≠ [] ∧ word ≠ "-" then .error (.fault (.missingValue option))
    else do
      pure { progress with arguments := ← progress.arguments.give option word, pending := none }
  | none =>
    if progress.optionsEnded ∨ hyphens = [] ∨ word = "-" then do
      pure { progress with arguments := ← progress.arguments.giveInput word }
    else if word = "--" then .ok { progress with optionsEnded := true }
    else if hyphens.length = 1 then readShort progress (word.toList.drop 1)
    else readLong progress (word.toList.drop 2)

/-- Reads a command line. Where it names no configuration file, the environment
may. -/
def read (words : List String) (environment : Option String) :
    Except Interruption Arguments := do
  let progress ← words.foldlM readWord {}
  if let some option := progress.pending then
    throw (.fault (.missingValue option))
  match progress.arguments.config, environment with
  | none, some path => progress.arguments.give .config path
  | _, _ => pure progress.arguments

/-- An entry of the help: how an option is written, and what it does. -/
def helpEntry (short : Option Char) (long about : String) : String :=
  let spelled := match short with
    | some letter => "  -" ++ letter.toString ++ ", --"
    | none => "      --"
  spelled ++ long ++ "\n          " ++ about ++ "\n"

/-- The entry of an option that has a value. Only `--output` has a short form, and only
`--config` can be given by the environment. -/
def optionEntry (environment : Option String) (option : ValueOption) : String :=
  helpEntry (if option = .output then some 'o' else none)
    (option.name ++ " <" ++ option.placeholder ++ ">")
    (if option = .config then
      option.about ++ " [env: CMARK_FMT_CONFIG=" ++ environment.getD "" ++ "]"
    else option.about)

/-- The help, given the configuration file that the environment names. It is set for
lines that are long enough; a terminal with shorter ones gets it broken elsewhere. -/
def help (environment : Option String) : String :=
  "Renders CommonMark document trees back to Markdown with configurable style.\n\n" ++
  "Usage: cmark-fmt [OPTIONS] [INPUT]\n\n" ++
  "Arguments:\n  [INPUT]  Path to the input file. Reads stdin when absent or `-`\n\n" ++
  "Options:\n" ++ String.join (ValueOption.all.map (optionEntry environment)) ++
  helpEntry none "strikethrough" "Parse and keep `~~strikethrough~~` spans" ++
  helpEntry none "check" "Do not write anything; exit with status 1 if the input would change" ++
  helpEntry (some 'h') "help" "Print help" ++
  helpEntry (some 'V') "version" "Print version"

end Arguments

end MarkdownFormat
