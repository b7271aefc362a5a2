/-
# What a run leaves behind

A run reads its settings and its input, and formats the input. If it fails on the way, or
only compares, it changes no file and prints nothing. Otherwise it prints the formatted
text or saves it in the named file, and changes nothing else; the file may be the one that
the input was read from.

What is to be done is said here without following the program: which settings a run has,
what its input is, and what the formatted text is.
-/

import MarkdownFormat.CommandLine.Run
import MarkdownFormat.Proofs.CommandLine.Files
import MarkdownFormat.Proofs.Text.Utf8

namespace MarkdownFormat

/-- The value of a setting: the option if it is given, else the value in the configuration
file if it has one, else the default. A value in the file has to suit the setting. -/
def Settles {α : Type} (option : Option α) (read? : Toml.Value → Option α) (name : String)
    (entries : Toml.Entries) (default value : α) : Prop :=
  match entries.lookup name with
  | none => value = option.getD default
  | some entry => ∃ inFile, read? entry = some inFile ∧ value = option.getD inFile

namespace Arguments

variable (arguments : Arguments) (world : World)

/-- The entries of the configuration file. Without a file there are none. -/
def HasEntries (entries : Toml.Entries) : Prop :=
  match arguments.config with
  | none => entries = []
  | some path => ∃ text : String,
    world.files.read? (Path.ofString path) = some (Utf8.ofString text) ∧
      Toml.read? text = some entries

/-- The configuration of a run. -/
structure Resolves (entries : Toml.Entries) (config : Config) : Prop where
  found : arguments.HasEntries world entries
  indentStyle : Settles arguments.settings.indentStyle (styleOf? IndentStyle.ofName?)
    "indent-style" entries .spaces config.indentStyle
  headingStyle : Settles arguments.settings.headingStyle (styleOf? HeadingStyle.ofName?)
    "heading-style" entries .atx config.headingStyle
  breakStyle : Settles arguments.settings.breakStyle (styleOf? BreakStyle.ofName?)
    "thematic-break-style" entries .dashed config.breakStyle
  breakLength : Settles arguments.settings.breakLength lengthOf?
    "thematic-break-length" entries 3 config.breakLength
  nestedListLength : Settles arguments.settings.nestedListLength lengthOf?
    "nested-list-length" entries 1 config.nestedListLength

/-- The input of a run: text from the named file or from standard input. -/
def HasInput (input : Bytes) : Prop :=
  (∃ text, input = Utf8.ofString text) ∧
    match named? arguments.input with
    | none => world.stdin = input
    | some path => world.files.read? (Path.ofString path) = some input

/-- What a run formats, and what it makes of it. -/
structure Formats (config : Config) (input : Bytes) (text : String) : Prop where
  resolves : ∃ entries, arguments.Resolves world entries config
  reads : arguments.HasInput world input
  formatted : format config arguments.strikethrough input = .ok text

/-- What a run may leave behind. If there is nothing that it formats, it fails, changes no file
and prints nothing; the same if it only compares, and then its code tells whether the formatted
text is the input. Otherwise the formatted text is all that it prints, or all that it writes to
the named file, and nothing else changes; a plain file that is there can be written. -/
structure Permits (outcome : Outcome) : Prop where
  failed : (∀ config input text, ¬ arguments.Formats world config input text) →
    outcome.stdout = [] ∧ outcome.files = world.files ∧ outcome.code = 1
  compared : ∀ {config input text}, arguments.Formats world config input text →
    arguments.check → outcome.stdout = [] ∧ outcome.files = world.files ∧
      outcome.code = if Utf8.ofString text = input then 0 else 1
  printed : ∀ {config input text}, arguments.Formats world config input text →
    ¬ arguments.check → named? arguments.output = none →
    outcome.stdout = Utf8.ofString text ∧ outcome.files = world.files ∧ outcome.code = 0
  saved : ∀ {config input text}, arguments.Formats world config input text →
    ¬ arguments.check → ∀ path, named? arguments.output = some path → outcome.stdout = [] ∧
      (outcome.code = 0 ∧
          outcome.files.read? (Path.ofString path) = some (Utf8.ofString text) ∧
          (∀ other : Path, other.steps ≠ (Path.ofString path).steps →
            outcome.files.read? other = world.files.read? other) ∨
        outcome.code = 1 ∧ outcome.files = world.files ∧
          ¬ world.files.IsPlain (Path.ofString path))

variable {arguments : Arguments} {world : World}

/-- Bytes are text if they are the encoding of it. -/
theorem textOr_eq_ok {failure : Failure} {bytes : Option Bytes} {text : List Char} :
    textOr failure bytes = .ok text ↔ bytes = some (Utf8.encode text) := by
  cases bytes with
  | none => simp [textOr]
  | some bytes =>
      rw [Option.some.injEq, ← Utf8.decode_eq_ok, textOr, Option.map_some]
      cases Utf8.decode bytes <;> simp

/-- A setting is found in the file, and the option goes before it. -/
theorem settles_iff {α : Type} {option : Option α} {read? : Toml.Value → Option α}
    {name : String} {entries : Toml.Entries} {default value : α} :
    Settles option read? name entries default value ↔
      ∃ found, settingOf? read? name entries = some found ∧
        value = option.getD (found.getD default) := by
  rw [Settles, settingOf?]
  cases entries.lookup name with
  | none => simp
  | some entry => cases hread : read? entry <;> simp [hread]

/-- The settings in a file are those that each of its entries gives. -/
theorem ofToml?_eq_some {text : String} {settings : Overrides} :
    Overrides.ofToml? text = some settings ↔ ∃ entries, Toml.read? text = some entries ∧
      settingOf? (styleOf? IndentStyle.ofName?) "indent-style" entries =
        some settings.indentStyle ∧
      settingOf? (styleOf? HeadingStyle.ofName?) "heading-style" entries =
        some settings.headingStyle ∧
      settingOf? (styleOf? BreakStyle.ofName?) "thematic-break-style" entries =
        some settings.breakStyle ∧
      settingOf? lengthOf? "thematic-break-length" entries = some settings.breakLength ∧
      settingOf? lengthOf? "nested-list-length" entries = some settings.nestedListLength := by
  obtain ⟨indent, heading, style, length, nested⟩ := settings
  simp only [Overrides.ofToml?, Option.bind_eq_bind, Option.bind_eq_some_iff, Option.pure_def,
    Option.some.injEq, Overrides.mk.injEq]
  constructor
  · rintro ⟨entries, hentries, _, h1, _, h2, _, h3, _, h4, _, h5, rfl, rfl, rfl, rfl, rfl⟩
    exact ⟨entries, hentries, h1, h2, h3, h4, h5⟩
  · rintro ⟨entries, hentries, h1, h2, h3, h4, h5⟩
    exact ⟨entries, hentries, _, h1, _, h2, _, h3, _, h4, _, h5, rfl, rfl, rfl, rfl, rfl⟩

/-- The settings found in the file are those of its entries. -/
theorem fileSettings_eq_ok {settings : Overrides} :
    arguments.fileSettings world = .ok settings ↔
      ∃ entries, arguments.HasEntries world entries ∧
      settingOf? (styleOf? IndentStyle.ofName?) "indent-style" entries =
        some settings.indentStyle ∧
      settingOf? (styleOf? HeadingStyle.ofName?) "heading-style" entries =
        some settings.headingStyle ∧
      settingOf? (styleOf? BreakStyle.ofName?) "thematic-break-style" entries =
        some settings.breakStyle ∧
      settingOf? lengthOf? "thematic-break-length" entries = some settings.breakLength ∧
      settingOf? lengthOf? "nested-list-length" entries = some settings.nestedListLength := by
  cases hconfig : arguments.config with
  | none =>
      obtain ⟨indent, heading, style, length, nested⟩ := settings
      simp [fileSettings, HasEntries, hconfig, settingOf?, eq_comm]
  | some path =>
      simp only [HasEntries, hconfig]
      have hread : arguments.fileSettings world = .ok settings ↔ ∃ text : List Char,
          world.files.read? (Path.ofString path) = some (Utf8.encode text) ∧
            Overrides.ofToml? (String.ofList text) = some settings := by
        simp only [fileSettings, hconfig, ← @textOr_eq_ok (.configUnread path)]
        cases textOr (.configUnread path) (world.files.read? (Path.ofString path)) with
        | error failure => simp [bind, Except.bind]
        | ok text =>
            cases hsettings : Overrides.ofToml? (String.ofList text) <;>
              simp [bind, Except.bind, pure, Except.pure, hsettings]
      rw [hread]
      constructor
      · rintro ⟨text, hfile, hsettings⟩
        obtain ⟨entries, hentries, hfound⟩ := ofToml?_eq_some.mp hsettings
        refine ⟨entries, ⟨String.ofList text, ?_, hentries⟩, hfound⟩
        rw [hfile, Utf8.ofString, String.toList_ofList]
      · rintro ⟨entries, ⟨text, hfile, hentries⟩, hfound⟩
        refine ⟨text.toList, hfile, ofToml?_eq_some.mpr ⟨entries, ?_, hfound⟩⟩
        rwa [String.ofList_toList]

/-- The program finds the configuration of a run. -/
theorem configuration_eq_ok {config : Config} :
    arguments.configuration world = .ok config ↔
      ∃ entries, arguments.Resolves world entries config := by
  have hconfiguration : arguments.configuration world = .ok config ↔
      ∃ settings, arguments.fileSettings world = .ok settings ∧
        ((({} : Config).override settings).override arguments.settings) = config := by
    rw [configuration]
    cases arguments.fileSettings world <;> simp [bind, Except.bind, pure, Except.pure]
  rw [hconfiguration]
  constructor
  · rintro ⟨settings, hsettings, rfl⟩
    obtain ⟨entries, hentries, hindent, hheading, hstyle, hlength, hnested⟩ :=
      fileSettings_eq_ok.mp hsettings
    exact ⟨entries, hentries, settles_iff.mpr ⟨_, hindent, rfl⟩,
      settles_iff.mpr ⟨_, hheading, rfl⟩, settles_iff.mpr ⟨_, hstyle, rfl⟩,
      settles_iff.mpr ⟨_, hlength, rfl⟩, settles_iff.mpr ⟨_, hnested, rfl⟩⟩
  · rintro ⟨entries, hentries, hindent, hheading, hstyle, hlength, hnested⟩
    obtain ⟨indent, hindent, hindentIs⟩ := settles_iff.mp hindent
    obtain ⟨heading, hheading, hheadingIs⟩ := settles_iff.mp hheading
    obtain ⟨style, hstyle, hstyleIs⟩ := settles_iff.mp hstyle
    obtain ⟨length, hlength, hlengthIs⟩ := settles_iff.mp hlength
    obtain ⟨nested, hnested, hnestedIs⟩ := settles_iff.mp hnested
    refine ⟨⟨indent, heading, style, length, nested⟩, fileSettings_eq_ok.mpr
      ⟨entries, hentries, hindent, hheading, hstyle, hlength, hnested⟩, ?_⟩
    obtain ⟨_, _, _, _, _⟩ := config
    simp only [Config.override, Config.mk.injEq]
    exact ⟨hindentIs.symm, hheadingIs.symm, hstyleIs.symm, hlengthIs.symm, hnestedIs.symm⟩

/-- The program reads the input of a run. -/
theorem inputText_eq_ok {input : Bytes} :
    arguments.inputText world = .ok input ↔ arguments.HasInput world input := by
  have hspelled : ∀ {failure : Failure} {bytes : Option Bytes},
      (textOr failure bytes).map Utf8.encode = .ok input ↔
        (∃ text, input = Utf8.ofString text) ∧ bytes = some input := by
    intro failure bytes
    cases htext : textOr failure bytes with
    | error other =>
        refine iff_of_false nofun ?_
        rintro ⟨⟨text, rfl⟩, hbytes⟩
        rw [textOr_eq_ok.mpr hbytes] at htext
        cases htext
    | ok text =>
        have hbytes := textOr_eq_ok.mp htext
        rw [Except.map, Except.ok.injEq, hbytes, Option.some.injEq]
        refine ⟨?_, fun h => h.2⟩
        rintro rfl
        exact ⟨⟨String.ofList text, by rw [Utf8.ofString, String.toList_ofList]⟩, rfl⟩
  rw [inputText, HasInput]
  cases named? arguments.input with
  | none => exact hspelled.trans (by rw [Option.some.injEq])
  | some path => exact hspelled

/-- Where nothing can be formatted, the run fails. -/
theorem effect_of_not_formats
    (hnone : ∀ config input text, ¬ arguments.Formats world config input text) :
    ∃ failure, arguments.effect world = .error failure := by
  rw [effect]
  cases hconfig : arguments.configuration world with
  | error failure => exact ⟨failure, rfl⟩
  | ok config =>
      cases hinput : arguments.inputText world with
      | error failure => exact ⟨failure, rfl⟩
      | ok input =>
          cases hformat : format config arguments.strikethrough input with
          | error fault => exact ⟨.notRendered, by simp [bind, Except.bind, hformat]⟩
          | ok text =>
              exact (hnone config input text ⟨configuration_eq_ok.mp hconfig,
                inputText_eq_ok.mp hinput, hformat⟩).elim

/-- Where a text is formatted, the run prints it, saves it or compares it with the input. -/
theorem Formats.effect_eq {config : Config} {input : Bytes} {text : String}
    (hformats : arguments.Formats world config input text) :
    arguments.effect world = .ok (
      if arguments.check then
        if Utf8.ofString text = input then .accept
        else .reject (arguments.input.getD "<stdin>")
      else match named? arguments.output with
        | none => .print (Utf8.ofString text)
        | some path => .save path (Utf8.ofString text)) := by
  rw [effect, configuration_eq_ok.mpr hformats.resolves, inputText_eq_ok.mpr hformats.reads]
  simp only [bind, Except.bind, hformats.formatted]
  rfl

/-- The environment names the configuration file where the command line names none. -/
theorem read_eq_ok {words : List String} {environment : Option String} {arguments : Arguments}
    (hread : read words environment = .ok arguments) :
    ∃ given, read words none = .ok given ∧
      arguments = { given with config := given.config.or environment } := by
  simp only [read, bind, Except.bind] at hread ⊢
  cases hwords : words.foldlM readWord {} with
  | error interruption =>
      rw [hwords] at hread
      cases hread
  | ok progress =>
      rw [hwords] at hread
      cases hpending : progress.pending with
      | some option =>
          simp only [hpending] at hread
          cases hread
      | none =>
          simp only [hpending] at hread ⊢
          refine ⟨progress.arguments, ?_, ?_⟩
          · cases progress.arguments.config <;> rfl
          · have hkept : ∀ {config : Option String}, progress.arguments.config = config →
                progress.arguments = { progress.arguments with config } := by
              rintro config rfl
              rfl
            cases hconfig : progress.arguments.config with
            | some path =>
                simp only [hconfig] at hread
                cases hread
                exact hkept hconfig
            | none =>
                cases environment with
                | none =>
                    simp only [hconfig] at hread
                    cases hread
                    exact hkept hconfig
                | some path =>
                    by_cases hempty : path = ""
                    · simp only [hconfig, give, setOnce, pathOf?, if_pos hempty] at hread
                      cases hread
                    · simp only [hconfig, give, setOnce, pathOf?, if_neg hempty] at hread
                      cases hread
                      rfl

/-- How the help is asked for. Of a word with one hyphen only the first letter counts. -/
def AsksForHelp (word : String) : Prop :=
  word = "--help" ∨ ∃ letters, word.toList = '-' :: 'h' :: letters

/-- A word that asks for the help is read as such where neither a value nor an input is expected. -/
theorem readWord_of_asksForHelp {word : String} (hword : AsksForHelp word) {progress : Progress}
    (hpending : progress.pending = none) (hoptions : progress.optionsEnded = false) :
    readWord progress word = .error .help := by
  obtain rfl | ⟨letters, hletters⟩ := hword
  · simp only [readWord, hpending, hoptions]
    rfl
  · have hhyphen : word ≠ "-" := by
      rintro rfl
      cases hletters
    have hhyphens : word ≠ "--" := by
      rintro rfl
      cases hletters
    simp [readWord, hpending, hoptions, hletters, hhyphen, hhyphens, readShort]

/-- The help is the answer where the words before are without fault, whatever stands behind. -/
theorem read_of_asksForHelp {front : List String} {progress : Progress}
    (hfront : front.foldlM readWord {} = .ok progress) (hpending : progress.pending = none)
    (hoptions : progress.optionsEnded = false) {word : String} (hword : AsksForHelp word)
    (rest : List String) (environment : Option String) :
    read (front ++ word :: rest) environment = .error .help := by
  rw [read, List.foldlM_append, hfront]
  simp only [bind, Except.bind, List.foldlM_cons,
    readWord_of_asksForHelp hword hpending hoptions]

/-- A fault behind the help is not looked at. -/
example : read ["--check", "-h", "--unknown"] none = .error .help :=
  have hcheck : ["--check"].foldlM readWord {} = .ok { arguments := { check := true } } := rfl
  read_of_asksForHelp hcheck rfl rfl (.inr ⟨[], rfl⟩) ["--unknown"] none

end Arguments

/-- Saving writes the named file and nothing else, or fails and changes nothing. It does not
fail if the file is there. -/
theorem Effect.outcome_save (path : String) (text : Bytes) (world : World) :
    let outcome := (Effect.save path text).outcome world
    outcome.stdout = [] ∧
      (outcome.code = 0 ∧ outcome.files.read? (Path.ofString path) = some text ∧
          (∀ other : Path, other.steps ≠ (Path.ofString path).steps →
            outcome.files.read? other = world.files.read? other) ∨
        outcome.code = 1 ∧ outcome.files = world.files ∧
          ¬ world.files.IsPlain (Path.ofString path)) := by
  intro outcome
  cases hwrite : world.files.write (Path.ofString path) text with
  | ok files =>
      have houtcome : outcome = ⟨0, [], [], files⟩ := by simp only [outcome, Effect.outcome, hwrite]
      rw [houtcome]
      exact ⟨rfl, .inl ⟨rfl, Files.read?_of_write hwrite⟩⟩
  | error fault =>
      have houtcome : outcome = (Failure.notWritten path fault.message).outcome world := by
        simp only [outcome, Effect.outcome, hwrite]
      rw [houtcome]
      refine ⟨rfl, .inr ⟨rfl, rfl, fun hplain => ?_⟩⟩
      rw [hplain.write_eq] at hwrite
      cases hwrite

/-- A run leaves behind what its arguments permit. -/
theorem Arguments.permits_run (arguments : Arguments) (world : World) :
    arguments.Permits world (arguments.run world) := by
  have hrun : ∀ {effect : Effect}, arguments.effect world = .ok effect →
      arguments.run world = effect.outcome world := by
    intro effect heffect
    simp only [run, heffect]
  constructor
  case failed =>
    intro hnone
    obtain ⟨failure, hfailure⟩ := effect_of_not_formats hnone
    have hfailed : arguments.run world = failure.outcome world := by simp only [run, hfailure]
    rw [hfailed]
    exact ⟨rfl, rfl, rfl⟩
  case compared =>
    intro config input text hformats hcheck
    rw [hrun hformats.effect_eq, if_pos hcheck]
    by_cases hsame : Utf8.ofString text = input <;> simp [hsame, Effect.outcome]
  case printed =>
    intro config input text hformats hcheck houtput
    rw [hrun hformats.effect_eq, if_neg hcheck, houtput]
    exact ⟨rfl, rfl, rfl⟩
  case saved =>
    intro config input text hformats hcheck path houtput
    rw [hrun hformats.effect_eq, if_neg hcheck, houtput]
    exact Effect.outcome_save path (Utf8.ofString text) world

/-- A run touches nothing unless it succeeds: whatever its arguments are, it leaves behind what
they permit. A command line that can be read makes a run, and so does the configuration file that
the environment names. Any other prints the help, the version or what is wrong with it, and
changes no file. -/
theorem runCommandLine_frame (words : List String) (environment : Option String)
    (world : World) (help : Bytes) :
    (∀ arguments : Arguments, arguments.Permits world (arguments.run world)) ∧
    let outcome := runCommandLine words environment world help
    match Arguments.read words environment with
    | .ok arguments => outcome = arguments.run world ∧
        ∃ given, Arguments.read words none = .ok given ∧
          arguments = { given with config := given.config.or environment }
    | .error .help =>
        outcome.stdout = help ∧ outcome.files = world.files ∧ outcome.code = 0
    | .error .version =>
        outcome.stdout = Utf8.ofString "cmark-fmt 0.3.0\n" ∧ outcome.files = world.files ∧
          outcome.code = 0
    | .error (.fault _) =>
        outcome.stdout = [] ∧ outcome.files = world.files ∧ outcome.code = 2 := by
  refine ⟨fun arguments => arguments.permits_run world, ?_⟩
  intro outcome
  cases hread : Arguments.read words environment with
  | ok arguments =>
      have houtcome : outcome = arguments.run world := by
        simp only [outcome, runCommandLine, hread]
      exact ⟨houtcome, Arguments.read_eq_ok hread⟩
  | error interruption =>
      have houtcome : outcome = interruption.outcome help world := by
        simp only [outcome, runCommandLine, hread]
      rw [houtcome]
      cases interruption with
      | help => exact ⟨rfl, rfl, rfl⟩
      | version => exact ⟨rfl, rfl, rfl⟩
      | fault cause => exact ⟨rfl, rfl, rfl⟩

/-- A result that holds a value is a success with this value. -/
theorem eq_ok_of_toOption {ε α : Type} {result : Except ε α} {value : α}
    (hsome : result.toOption = some value) : result = .ok value := by
  cases result with
  | error fault => cases hsome
  | ok found => exact congrArg _ (Option.some.inj hsome)

/-- The input file is formatted in place. An option goes before the configuration file that
the environment names. -/
theorem runCommandLine_frame_inPlace :
    let world : World := ⟨.ofList [("a.md", Utf8.ofString "***\n"),
      ("c.toml", Utf8.ofString "thematic-break-length = 5\nthematic-break-style = 'starred'\n")],
      []⟩
    let outcome := runCommandLine ["a.md", "-o", "./a.md", "--thematic-break-style", "underlined"]
      (some "c.toml") world (Utf8.ofString "help\n")
    outcome.stdout = [] ∧ outcome.code = 0 ∧
      outcome.files.read? (Path.ofString "a.md") = some (Utf8.ofString "_____\n") ∧
      outcome.files.read? (Path.ofString "c.toml") =
        world.files.read? (Path.ofString "c.toml") := by
  intro world outcome
  let arguments : Arguments := {
    input := some "a.md", output := some "./a.md", config := some "c.toml"
    settings := { breakStyle := some .underlined } }
  have hread : Arguments.read ["a.md", "-o", "./a.md", "--thematic-break-style", "underlined"]
      (some "c.toml") = .ok arguments :=
    eq_ok_of_toOption (by decide +kernel)
  have hconfig : arguments.configuration world =
      .ok { breakStyle := .underlined, breakLength := 5 } :=
    eq_ok_of_toOption (by decide +kernel)
  have hinput : arguments.inputText world = .ok (Utf8.ofString "***\n") :=
    eq_ok_of_toOption (by decide +kernel)
  have hformat : format { breakStyle := .underlined, breakLength := 5 } false
      (Utf8.ofString "***\n") = .ok "_____\n" :=
    eq_ok_of_toOption (by decide +kernel)
  have hformats : arguments.Formats world { breakStyle := .underlined, breakLength := 5 }
      (Utf8.ofString "***\n") "_____\n" :=
    ⟨Arguments.configuration_eq_ok.mp hconfig, Arguments.inputText_eq_ok.mp hinput, hformat⟩
  obtain ⟨hpermits, hruns⟩ := runCommandLine_frame ["a.md", "-o", "./a.md",
    "--thematic-break-style", "underlined"] (some "c.toml") world (Utf8.ofString "help\n")
  rw [hread] at hruns
  have houtcome : outcome = arguments.run world := hruns.1
  obtain ⟨hstdout, ⟨hcode, hwritten, hothers⟩ | ⟨-, -, hplain⟩⟩ :=
    (hpermits arguments).saved hformats nofun "./a.md" rfl
  · rw [houtcome]
    exact ⟨hstdout, hcode, hwritten, hothers _ (by decide)⟩
  · exact absurd ⟨by decide, by decide⟩ hplain

end MarkdownFormat
