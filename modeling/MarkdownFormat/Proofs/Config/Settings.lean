/-
# Settings by name

A setting by name stands for an option if the name is that of a setting and the value one of its
values. It then changes this setting as the option does; else it is refused, and nothing changes.
So any settings, good and bad ones, lead to the same configuration as the options that the good
ones stand for.
-/

import Mathlib.Data.Nat.Digits.Defs
import MarkdownFormat.Proofs.Render.OptionOrder

namespace MarkdownFormat

/-- How lengths are spelled: at least one decimal digit behind an optional plus sign, with a value
below 2^64. -/
def SpellsLength (text : String) (length : Nat) : Prop :=
  ∃ sign digits : List Char, text.toList = sign ++ digits ∧ (sign = [] ∨ sign = ['+']) ∧
    digits ≠ [] ∧ (∀ c ∈ digits, c.isDigit) ∧
    length = Nat.ofDigits 10 (digits.reverse.map fun c => c.toNat - '0'.toNat) ∧
    length < 2 ^ 64

/-- Digits are read from the front on, each worth ten times what is behind it. -/
theorem number_eq_ofDigits {digits : List Char} (hdigits : ∀ c ∈ digits, c.isDigit) :
    Digits.number 10 digits =
      Nat.ofDigits 10 (digits.reverse.map fun c => c.toNat - '0'.toNat) := by
  induction digits using List.reverseRecOn with
  | nil => rfl
  | append_singleton front c ih =>
      obtain ⟨hfront, hlast⟩ := List.forall_mem_append.mp hdigits
      have hc : c.isDigit := hlast c List.mem_cons_self
      have hstep : Digits.number 10 (front ++ [c]) =
          Digits.number 10 front * 10 + Digits.value c := by
        simp [Digits.number]
      rw [hstep, ih hfront, Digits.value, if_pos hc, List.reverse_append]
      simp only [List.reverse_singleton, List.singleton_append, List.map_cons, Nat.ofDigits_cons]
      omega

/-- A decimal is read from digits alone, and from one at least. -/
theorem readDecimal?_eq_some_iff {text : List Char} {length : Nat} :
    Digits.readDecimal? text = some length ↔ text ≠ [] ∧ (∀ c ∈ text, c.isDigit) ∧
      length = Nat.ofDigits 10 (text.reverse.map fun c => c.toNat - '0'.toNat) := by
  rw [Digits.readDecimal?, Option.ite_none_right_eq_some, List.all_eq_true, and_assoc]
  refine and_congr_right fun _ => and_congr_right fun hdigits => ?_
  rw [number_eq_ofDigits hdigits, Option.some.injEq, eq_comm]

/-- So lengths are read as they are spelled. -/
theorem readLength?_eq_some_iff {text : String} {length : Nat} :
    Digits.readLength? text.toList = some length ↔ SpellsLength text length := by
  simp only [Digits.readLength?, Option.filter_eq_some_iff, readDecimal?_eq_some_iff,
    decide_eq_true_eq, SpellsLength]
  constructor
  · rintro ⟨hread, hlt⟩
    split at hread
    · next rest hplus =>
        obtain ⟨hne, hdigits, hvalue⟩ := hread
        exact ⟨['+'], rest, hplus, .inr rfl, hne, hdigits, hvalue, hlt⟩
    · obtain ⟨hne, hdigits, hvalue⟩ := hread
      exact ⟨[], text.toList, rfl, .inl rfl, hne, hdigits, hvalue, hlt⟩
  · rintro ⟨sign, digits, htext, rfl | rfl, hne, hdigits, hvalue, hlt⟩
    · rw [List.nil_append] at htext
      rw [htext]
      split
      · next rest => exact absurd (hdigits '+' List.mem_cons_self) (by decide)
      · exact ⟨⟨hne, hdigits, hvalue⟩, hlt⟩
    · rw [htext]
      exact ⟨⟨hne, hdigits, hvalue⟩, hlt⟩

/-- A value is found by its name if it is listed and no other value has this name. -/
theorem named?_eq_some_iff {α : Type} {name : α → String} {values : List α}
    (hlisted : ∀ value, value ∈ values) (hname : ∀ a b, name a = name b → a = b)
    {wanted : String} {value : α} :
    named? name values wanted = some value ↔ wanted = name value := by
  constructor
  · intro hfound
    have hmatches := List.find?_some hfound
    exact (of_decide_eq_true hmatches).symm
  · rintro rfl
    cases hfound : named? name values (name value) with
    | none =>
        have hnone := List.find?_eq_none.mp hfound value (hlisted value)
        simp at hnone
    | some found =>
        have hmatches := List.find?_some hfound
        rw [hname found value (of_decide_eq_true hmatches)]

/-- Indent styles are found by their names. -/
theorem IndentStyle.ofName?_eq_some_iff {text : String} {style : IndentStyle} :
    IndentStyle.ofName? text = some style ↔ text = style.name :=
  named?_eq_some_iff (by rintro (_ | _) <;> decide) (by rintro (_ | _) (_ | _) <;> decide)

/-- Heading styles are found by their names. -/
theorem HeadingStyle.ofName?_eq_some_iff {text : String} {style : HeadingStyle} :
    HeadingStyle.ofName? text = some style ↔ text = style.name :=
  named?_eq_some_iff (by rintro (_ | _) <;> decide) (by rintro (_ | _) (_ | _) <;> decide)

/-- Styles of thematic breaks are found by their names. -/
theorem BreakStyle.ofName?_eq_some_iff {text : String} {style : BreakStyle} :
    BreakStyle.ofName? text = some style ↔ text = style.name :=
  named?_eq_some_iff (by rintro (_ | _) <;> decide) (by rintro (_ | _) (_ | _) <;> decide)

namespace RenderOption

/-- The options that settings stand for, by name and value. -/
inductive IsNamed : String → String → RenderOption → Prop
  | indentStyle (style : IndentStyle) : IsNamed "indent-style" style.name (.indentStyle style)
  | headingStyle (style : HeadingStyle) : IsNamed "heading-style" style.name (.headingStyle style)
  | breakStyle (style : BreakStyle) : IsNamed "thematic-break-style" style.name (.breakStyle style)
  | breakLength {value : String} {length : Nat} (hlength : SpellsLength value length) :
      IsNamed "thematic-break-length" value (.breakLength length)
  | nestedListLength {value : String} {length : Nat} (hlength : SpellsLength value length) :
      IsNamed "nested-list-length" value (.nestedListLength length)

/-- The options that settings stand for, in their order. Those that stand for none are passed
over. -/
inductive AreNamed : List (String × String) → List RenderOption → Prop
  | nil : AreNamed [] []
  | accepted {name value : String} {option : RenderOption} {rest : List (String × String)}
      {options : List RenderOption} (hnamed : IsNamed name value option)
      (hrest : AreNamed rest options) : AreNamed ((name, value) :: rest) (option :: options)
  | refused {name value : String} {rest : List (String × String)} {options : List RenderOption}
      (hnamed : ∀ option, ¬ IsNamed name value option) (hrest : AreNamed rest options) :
      AreNamed ((name, value) :: rest) options

end RenderOption

namespace Config

open RenderOption

/-- Whether two configurations agree in all settings but the one of a name. -/
structure AgreeExcept (name : String) (config changed : Config) : Prop where
  indentStyle : name ≠ "indent-style" → changed.indentStyle = config.indentStyle
  headingStyle : name ≠ "heading-style" → changed.headingStyle = config.headingStyle
  breakStyle : name ≠ "thematic-break-style" → changed.breakStyle = config.breakStyle
  breakLength : name ≠ "thematic-break-length" → changed.breakLength = config.breakLength
  nestedListLength :
    name ≠ "nested-list-length" → changed.nestedListLength = config.nestedListLength

/-- The configuration that a setting leaves behind, whether it is accepted or refused. -/
def afterSetting (config : Config) (setting : String × String) : Config :=
  match changeOption setting.1 setting.2 config with
  | .ok _ left | .error _ left => left

/-- The configuration that settings leave behind, one after the other. -/
def afterSettings (config : Config) (settings : List (String × String)) : Config :=
  settings.foldl afterSetting config

section Single

variable {name value : String} {option : RenderOption} (config : Config)

/-- A setting that stands for an option is accepted, and changes what the option changes. -/
theorem changeOption_of_isNamed (hnamed : IsNamed name value option) :
    changeOption name value config = .ok () (Renderer.configure config option) := by
  cases hnamed with
  | indentStyle style =>
      simp only [changeOption, IndentStyle.ofName?_eq_some_iff.mpr rfl]
      rfl
  | headingStyle style =>
      simp only [changeOption, HeadingStyle.ofName?_eq_some_iff.mpr rfl]
      rfl
  | breakStyle style =>
      simp only [changeOption, BreakStyle.ofName?_eq_some_iff.mpr rfl]
      rfl
  | breakLength hlength | nestedListLength hlength =>
      simp only [changeOption, readLength?_eq_some_iff.mpr hlength]
      rfl

/-- Where no value is read, nothing that would follow is done. -/
theorem readOr_bind_eq_error {α : Type} {read : Option α} (hread : ∀ setting, read ≠ some setting)
    (change : α → EStateM InvalidOption Config Unit) :
    (readOr name value read >>= change) config = .error ⟨name, value⟩ config := by
  rw [Option.eq_none_iff_forall_ne_some.mpr hread]
  rfl

/-- Any other setting is refused, and the configuration is the one that there was. -/
theorem changeOption_of_not_isNamed (hnamed : ∀ option, ¬ IsNamed name value option) :
    changeOption name value config = .error ⟨name, value⟩ config := by
  fun_cases changeOption name value with
  | case1 =>
      refine readOr_bind_eq_error config (fun style hstyle => hnamed (.indentStyle style) ?_) _
      exact IndentStyle.ofName?_eq_some_iff.mp hstyle ▸ .indentStyle style
  | case2 =>
      refine readOr_bind_eq_error config (fun style hstyle => hnamed (.headingStyle style) ?_) _
      exact HeadingStyle.ofName?_eq_some_iff.mp hstyle ▸ .headingStyle style
  | case3 =>
      refine readOr_bind_eq_error config (fun style hstyle => hnamed (.breakStyle style) ?_) _
      exact BreakStyle.ofName?_eq_some_iff.mp hstyle ▸ .breakStyle style
  | case4 =>
      refine readOr_bind_eq_error config (fun length hlength => hnamed (.breakLength length) ?_) _
      exact .breakLength (readLength?_eq_some_iff.mp hlength)
  | case5 =>
      refine readOr_bind_eq_error config
        (fun length hlength => hnamed (.nestedListLength length) ?_) _
      exact .nestedListLength (readLength?_eq_some_iff.mp hlength)
  | case6 => rfl

/-- What is refused stands for no option. -/
theorem not_isNamed_of_setOption {refused : InvalidOption}
    (hrefused : config.setOption name value = .error refused) (option : RenderOption) :
    ¬ IsNamed name value option := by
  intro hnamed
  rw [setOption, changeOption_of_isNamed config hnamed] at hrefused
  cases hrefused

/-- An option changes only the setting that it is named for. -/
theorem agreeExcept_configure (hnamed : IsNamed name value option) :
    config.AgreeExcept name (Renderer.configure config option) := by
  cases hnamed <;> constructor <;> intro hname <;> first | rfl | exact absurd rfl hname

end Single

/-- Any settings stand for some options, be it none. -/
theorem exists_areNamed (settings : List (String × String)) :
    ∃ options, AreNamed settings options := by
  induction settings with
  | nil => exact ⟨[], .nil⟩
  | cons setting rest ih =>
      obtain ⟨options, hrest⟩ := ih
      by_cases hnamed : ∃ option, IsNamed setting.1 setting.2 option
      · obtain ⟨option, hnamed⟩ := hnamed
        exact ⟨option :: options, .accepted hnamed hrest⟩
      · exact ⟨options, .refused (not_exists.mp hnamed) hrest⟩

/-- Settings leave behind what the options do that they stand for. -/
theorem afterSettings_eq_foldl {settings : List (String × String)} {options : List RenderOption}
    (hnamed : AreNamed settings options) (config : Config) :
    config.afterSettings settings = options.foldl Renderer.configure config := by
  induction hnamed generalizing config with
  | nil => rfl
  | accepted hnamed _ ih =>
      rw [afterSettings, List.foldl_cons, afterSetting,
        changeOption_of_isNamed config hnamed]
      exact ih _
  | refused hnamed _ ih =>
      rw [afterSettings, List.foldl_cons, afterSetting,
        changeOption_of_not_isNamed config hnamed]
      exact ih _

/-- Whatever was set before, a setting that stands for an option does what the option does, and
leaves all other settings as they are; any other setting is refused with its name and value and
leaves everything as it is. So settings lead to the configuration that a renderer gets from the
options that they stand for. -/
theorem afterSettings_eq_addOptions (renderer : Renderer) (settings : List (String × String)) :
    (∀ front name value,
      let before := renderer.config.afterSettings front
      let after := renderer.config.afterSettings (front ++ [(name, value)])
      (∃ option, IsNamed name value option ∧ changeOption name value before = .ok () after ∧
        before.setOption name value = .ok after ∧
        after = Renderer.configure before option ∧ before.AgreeExcept name after) ∨
      (∀ option, ¬ IsNamed name value option) ∧
        changeOption name value before = .error ⟨name, value⟩ after ∧
        before.setOption name value = .error ⟨name, value⟩ ∧ after = before) ∧
    (∃ options, AreNamed settings options) ∧
    ∀ options, AreNamed settings options →
      (renderer.addOptions options).config = renderer.config.afterSettings settings := by
  refine ⟨?_, exists_areNamed settings, ?_⟩
  · intro front name value before after
    have hafter : after = before.afterSetting (name, value) := by
      simp only [after, before, afterSettings, List.foldl_append, List.foldl_cons,
        List.foldl_nil]
    by_cases hnamed : ∃ option, IsNamed name value option
    · obtain ⟨option, hnamed⟩ := hnamed
      have haccepted := changeOption_of_isNamed before hnamed
      have hchanged : after = Renderer.configure before option := by
        rw [hafter, afterSetting, haccepted]
      refine .inl ⟨option, hnamed, hchanged ▸ haccepted, ?_, hchanged,
        hchanged ▸ agreeExcept_configure before hnamed⟩
      rw [setOption, haccepted, hchanged]
    · have hrefused := changeOption_of_not_isNamed before (not_exists.mp hnamed)
      have hkept : after = before := by rw [hafter, afterSetting, hrefused]
      refine .inr ⟨not_exists.mp hnamed, hkept.symm ▸ hrefused, ?_, hkept⟩
      rw [setOption, hrefused]
  · intro options hnamed
    rw [afterSettings_eq_foldl hnamed]
    exact Renderer.config_foldl_install _ _

/-- Two settings that stand for options, and three that are refused: for their value, because the
length is too large, and for their name. -/
def mixedSettings : List (String × String) :=
  [("indent-style", "tabs"), ("heading-style", "fancy"), ("thematic-break-length", "+007"),
    ("nested-list-length", "18446744073709551616"), ("line-width", "80")]

/-- The two good settings are made, and the three bad ones change nothing. -/
theorem afterSettings_eq_addOptions_mixed :
    let options := [.indentStyle .tabs, .breakLength 7]
    AreNamed mixedSettings options ∧
    ((Renderer.standard {}).addOptions options).config =
      ({} : Config).afterSettings mixedSettings ∧
    ({} : Config).afterSettings mixedSettings = { indentStyle := .tabs, breakLength := 7 } := by
  intro options
  have hlength : SpellsLength "+007" 7 :=
    ⟨['+'], ['0', '0', '7'], by decide, .inr rfl, by simp, List.all_eq_true.mp rfl, by decide,
      by decide⟩
  have hnamed : AreNamed mixedSettings options := by
    refine .accepted (.indentStyle .tabs) (.refused ?_ (.accepted (.breakLength hlength)
      (.refused ?_ (.refused ?_ .nil))))
    · exact not_isNamed_of_setOption {} rfl
    · exact not_isNamed_of_setOption {} rfl
    · exact not_isNamed_of_setOption {} rfl
  obtain ⟨-, -, hsame⟩ := afterSettings_eq_addOptions (Renderer.standard {}) mixedSettings
  exact ⟨hnamed, hsame options hnamed, (afterSettings_eq_foldl hnamed {}).trans rfl⟩

end Config

end MarkdownFormat
