/-
# Runs

A run reads a configuration and an input, formats the input, and prints the result,
saves it or compares it with the input. Everything is decided before anything is
written: `effect` says what a run is to do, or why it fails, and `outcome` does it.
-/

import MarkdownFormat.CommandLine.Arguments
import MarkdownFormat.CommandLine.Files
import MarkdownFormat.Config.Toml
import MarkdownFormat.Format
import MarkdownFormat.Text.Quoted

namespace MarkdownFormat

/-- What a run finds outside. -/
structure World where
  files : Files
  /-- Standard input. -/
  stdin : Bytes

/-- Why a run fails. -/
inductive Failure
  | configUnread (path : String)
  | configRefused (path : String)
  | stdinUnread
  | inputUnread (path : String)
  | notRendered
  | notWritten (path reason : String)
  deriving DecidableEq, Repr

/-- A path between quotes. -/
def quotedPath (path : String) : String :=
  String.ofList (Quoted.text path.toList)

/-- The wording of a failure. -/
def Failure.message : Failure → String
  | .configUnread path => "failed to read config " ++ quotedPath path
  | .configRefused path => "in config " ++ quotedPath path
  | .stdinUnread => "failed to read stdin"
  | .inputUnread path => "failed to read " ++ quotedPath path
  | .notRendered => "failed to render markdown"
  | .notWritten path reason => "failed to write file " ++ quotedPath path ++ ": " ++ reason

/-- What a run does once it can no longer fail on its input. -/
inductive Effect
  /-- The input was compared and is formatted. -/
  | accept
  /-- The input was compared and is not formatted. -/
  | reject (name : String)
  | print (text : Bytes)
  | save (path : String) (text : Bytes)
  deriving DecidableEq, Repr

/-- What a run leaves behind. -/
structure Outcome where
  code : Nat
  stdout : Bytes
  /-- The lines of standard error. -/
  stderr : List String
  files : Files

namespace Arguments

/-- The path of a file, unless it is absent or a hyphen, which stand for the
standard streams. -/
def named? (path : Option String) : Option String :=
  path.filter (· ≠ "-")

/-- The text of some bytes. -/
def textOr (failure : Failure) (bytes : Option Bytes) : Except Failure (List Char) :=
  match bytes.map Utf8.decode with
  | some (.ok text) => .ok text
  | _ => .error failure

/-- The settings in the configuration file. -/
def fileSettings (arguments : Arguments) (world : World) : Except Failure Overrides :=
  match arguments.config with
  | none => .ok {}
  | some path => do
    let text ← textOr (.configUnread path) (world.files.read? (Path.ofString path))
    match Overrides.ofToml? (String.ofList text) with
    | some settings => pure settings
    | none => .error (.configRefused path)

/-- The configuration of a run: settings given directly go before those in the
file, and those before the defaults. -/
def configuration (arguments : Arguments) (world : World) : Except Failure Config := do
  let settings ← arguments.fileSettings world
  pure ((({} : Config).override settings).override arguments.settings)

/-- The input of a run. -/
def inputText (arguments : Arguments) (world : World) : Except Failure Bytes := do
  let text ← match named? arguments.input with
    | none => textOr .stdinUnread (some world.stdin)
    | some path => textOr (.inputUnread path) (world.files.read? (Path.ofString path))
  pure (Utf8.encode text)

/-- What a run is to do. -/
def effect (arguments : Arguments) (world : World) : Except Failure Effect := do
  let config ← arguments.configuration world
  let input ← arguments.inputText world
  match format config arguments.strikethrough input with
  | .error _ => .error .notRendered
  | .ok text =>
    let output := Utf8.ofString text
    pure (if arguments.check then
        if output = input then .accept else .reject (arguments.input.getD "<stdin>")
      else match named? arguments.output with
        | none => .print output
        | some path => .save path output)

end Arguments

/-- A run that fails changes no file and prints nothing but the reason. -/
def Failure.outcome (failure : Failure) (world : World) : Outcome :=
  ⟨1, [], ["Error: " ++ failure.message], world.files⟩

/-- Does what is left of a run. -/
def Effect.outcome (effect : Effect) (world : World) : Outcome :=
  match effect with
  | .accept => ⟨0, [], [], world.files⟩
  | .reject name => ⟨1, [], [name ++ " is not formatted"], world.files⟩
  | .print text => ⟨0, text, [], world.files⟩
  | .save path text =>
    match world.files.write (Path.ofString path) text with
    | .ok files => ⟨0, [], [], files⟩
    | .error fault => (Failure.notWritten path fault.message).outcome world

/-- A run with the given arguments. -/
def Arguments.run (arguments : Arguments) (world : World) : Outcome :=
  match arguments.effect world with
  | .error failure => failure.outcome world
  | .ok effect => effect.outcome world

/-- What answers a command line that asks for no run. The text of the help is given. -/
def Interruption.outcome (interruption : Interruption) (help : Bytes) (world : World) : Outcome :=
  match interruption with
  | .help => ⟨0, help, [], world.files⟩
  | .version => ⟨0, Utf8.ofString "cmark-fmt 0.3.0\n", [], world.files⟩
  | .fault cause => ⟨2, [], ["error: " ++ cause.message], world.files⟩

/-- The outcome of a command line, given the configuration file that the
environment names. The help may be laid out in another way than `Arguments.help`. -/
def runCommandLine (words : List String) (environment : Option String) (world : World)
    (help : Bytes := Utf8.ofString (Arguments.help environment)) : Outcome :=
  match Arguments.read words environment with
  | .error interruption => interruption.outcome help world
  | .ok arguments => arguments.run world

end MarkdownFormat
