/-
# The order of options

Of several options for one setting the last one counts. Extensions are installed by ascending
priority, so what a kind gets is decided by the extension of the highest priority among those
that claim the kind, and by the last one given if there are several. Options for different
settings and extensions of different priorities may thus change places.
-/

import MarkdownFormat.Proofs.Render.Registration

namespace MarkdownFormat

/-- Two entries of a list are one unless one of them stands behind the other. -/
theorem eq_of_append_cons_eq {α : Type} {front front' back back' : List α} {a b : α}
    (heq : front ++ a :: back = front' ++ b :: back') (hbehind : a ∈ front' → b ∉ back)
    (hbefore : b ∈ front → a ∉ back') : a = b := by
  rcases List.append_eq_append_iff.mp heq with ⟨between, rfl, hback⟩ | ⟨between, rfl, hback⟩
  · cases between with
    | nil => exact (List.cons.inj hback).1
    | cons first rest =>
        obtain ⟨rfl, rfl⟩ := List.cons.inj hback
        exact absurd (by simp) (hbehind (by simp))
  · cases between with
    | nil => exact (List.cons.inj hback).1.symm
    | cons first rest =>
        obtain ⟨rfl, rfl⟩ := List.cons.inj hback
        exact absurd (by simp) (hbefore (by simp))

section Sorting

variable {α : Type} (key : α → Int) {entries others : List α}

/-- Keys are compared transitively. -/
theorem decide_key_trans (a b c : α) (hab : decide (key a ≤ key b)) (hbc : decide (key b ≤ key c)) :
    decide (key a ≤ key c) := by
  rw [decide_eq_true_eq] at hab hbc ⊢
  exact Int.le_trans hab hbc

/-- Any two keys can be compared. -/
theorem decide_key_total (a b : α) : decide (key a ≤ key b) || decide (key b ≤ key a) := by
  rw [Bool.or_eq_true, decide_eq_true_eq, decide_eq_true_eq]
  exact Int.le_total _ _

/-- Sorted entries have ascending keys. -/
theorem pairwise_key_mergeSort (entries : List α) :
    (entries.mergeSort fun a b => decide (key a ≤ key b)).Pairwise fun a b => key a ≤ key b :=
  (List.pairwise_mergeSort (decide_key_trans key) (decide_key_total key) entries).imp
    of_decide_eq_true

/-- Entries by ascending key. Those of the same key stay in their order. -/
theorem filter_key_mergeSort (entries : List α) (wanted : Int) :
    (entries.mergeSort fun a b => decide (key a ≤ key b)).filter (key · = wanted) =
      entries.filter (key · = wanted) := by
  have hperm := List.mergeSort_perm entries fun a b => decide (key a ≤ key b)
  have hsorted : (entries.filter (key · = wanted)).Pairwise
      fun a b => decide (key a ≤ key b) = true := by
    apply List.pairwise_of_forall_mem_list
    intro a ha b hb
    simp only [List.mem_filter, decide_eq_true_eq] at ha hb ⊢
    omega
  have hstable : (entries.filter (key · = wanted)).Sublist
      (entries.mergeSort fun a b => decide (key a ≤ key b)) :=
    List.sublist_mergeSort (decide_key_trans key) (decide_key_total key) hsorted
      List.filter_sublist
  have hwithin := hstable.filter (key · = wanted)
  rw [List.filter_filter] at hwithin
  simp only [Bool.and_self] at hwithin
  exact (hwithin.eq_of_length (hperm.filter _).length_eq.symm).symm

variable {key}

/-- The first of sorted entries has the least key, also among those with the same entries of each
key. -/
theorem key_le_of_filter_eq {a b : α} {later : List α}
    (hsorted : (a :: entries).Pairwise fun a b => key a ≤ key b)
    (hsame : (a :: entries).filter (key · = key b) = (b :: later).filter (key · = key b)) :
    key a ≤ key b := by
  have hmem : b ∈ (a :: entries).filter (key · = key b) := by simp [hsame]
  rcases List.mem_cons.mp (List.mem_of_mem_filter hmem) with rfl | hmem
  · exact Int.le_refl _
  · exact List.rel_of_pairwise_cons hsorted hmem

/-- Entries by ascending key are the same if those of each key are. -/
theorem eq_of_filter_key_eq (hentries : entries.Pairwise fun a b => key a ≤ key b)
    (hothers : others.Pairwise fun a b => key a ≤ key b)
    (hsame : ∀ wanted, entries.filter (key · = wanted) = others.filter (key · = wanted)) :
    entries = others := by
  induction entries generalizing others with
  | nil =>
      cases others with
      | nil => rfl
      | cons b later => simpa using hsame (key b)
  | cons a rest ih =>
      cases others with
      | nil => simpa using hsame (key a)
      | cons b later =>
          have hkey : key a = key b := Int.le_antisymm
            (key_le_of_filter_eq hentries (hsame (key b)))
            (key_le_of_filter_eq hothers (hsame (key a)).symm)
          have hfirst := hsame (key a)
          rw [List.filter_cons_of_pos (by simp), List.filter_cons_of_pos (by simp [hkey])] at hfirst
          obtain ⟨rfl, -⟩ := List.cons.inj hfirst
          refine congrArg _ (ih hentries.of_cons hothers.of_cons fun wanted => ?_)
          have hwanted := hsame wanted
          by_cases hmatch : key a = wanted
          · simpa [hmatch] using hwanted
          · simpa [hmatch] using hwanted

end Sorting

/-- Whether an extension registers a function for a kind. -/
def Extension.Claims (extension : Extension) (kind : Kind) : Prop :=
  kind ∈ extension.registrations.map Prod.fst

namespace RenderOption

/-- What an option is about: one of the settings, or extensions of some priority. -/
inductive Subject
  | indentStyle
  | headingStyle
  | breakStyle
  | breakLength
  | nestedListLength
  | extension (priority : Int)
  deriving DecidableEq

/-- What an option is about. -/
def subject : RenderOption → Subject
  | .indentStyle _ => .indentStyle
  | .headingStyle _ => .headingStyle
  | .breakStyle _ => .breakStyle
  | .breakLength _ => .breakLength
  | .nestedListLength _ => .nestedListLength
  | .extension priority _ => .extension priority

/-- The indent style that an option asks for. -/
def indentStyle? : RenderOption → Option IndentStyle
  | .indentStyle style => some style
  | _ => none

/-- The heading style that an option asks for. -/
def headingStyle? : RenderOption → Option HeadingStyle
  | .headingStyle style => some style
  | _ => none

/-- The thematic break style that an option asks for. -/
def breakStyle? : RenderOption → Option BreakStyle
  | .breakStyle style => some style
  | _ => none

/-- The length of thematic breaks that an option asks for. -/
def breakLength? : RenderOption → Option Nat
  | .breakLength length => some length
  | _ => none

/-- The multiple for the indentation of items that an option asks for. -/
def nestedListLength? : RenderOption → Option Nat
  | .nestedListLength length => some length
  | _ => none

/-- What the last option that asks for something asks for or, if none does, what is there. -/
def lastAsked {α : Type} (asked? : RenderOption → Option α) (options : List RenderOption)
    (present : α) : α :=
  (options.filterMap asked?).getLast?.getD present

/-- Some options in another order, in which those about the same subject follow one another as
before. -/
def Reorders (options others : List RenderOption) : Prop :=
  ∀ subject, others.filter (·.subject = subject) = options.filter (·.subject = subject)

/-- The function that options decide on for a kind. Of the extensions that claim the kind it
comes from the one of the highest priority, the last one if there are several, and it is what
this one registers last for the kind. -/
def IsDecided (options : List RenderOption) (kind : Kind) (render : RenderFn) : Prop :=
  ∃ front priority earlier later back,
    options = front ++ .extension priority ⟨earlier ++ (kind, render) :: later⟩ :: back ∧
    (∀ entry ∈ later, entry.1 ≠ kind) ∧
    (∀ other extension, .extension other extension ∈ front → extension.Claims kind →
      other ≤ priority) ∧
    ∀ other extension, .extension other extension ∈ back → extension.Claims kind →
      other < priority

namespace IsDecided

variable {options : List RenderOption} {kind : Kind} {render other : RenderFn}

/-- The extension that decides has been given and claims the kind. -/
theorem exists_claims (hdecided : IsDecided options kind render) :
    ∃ priority extension, .extension priority extension ∈ options ∧ extension.Claims kind := by
  obtain ⟨front, priority, earlier, later, back, rfl, -⟩ := hdecided
  exact ⟨priority, ⟨earlier ++ (kind, render) :: later⟩, by simp, by simp [Extension.Claims]⟩

/-- Options decide on one function for a kind. -/
theorem unique (hdecided : IsDecided options kind render)
    (hother : IsDecided options kind other) : render = other := by
  obtain ⟨front, priority, earlier, later, back, rfl, hlater, hfront, hback⟩ := hdecided
  obtain ⟨front', priority', earlier', later', back', hoptions, hlater', hfront', hback'⟩ := hother
  have hclaims : Extension.Claims ⟨earlier ++ (kind, render) :: later⟩ kind := by
    simp [Extension.Claims]
  have hclaims' : Extension.Claims ⟨earlier' ++ (kind, other) :: later'⟩ kind := by
    simp [Extension.Claims]
  have hsame : RenderOption.extension priority ⟨earlier ++ (kind, render) :: later⟩ =
      .extension priority' ⟨earlier' ++ (kind, other) :: later'⟩ := by
    apply eq_of_append_cons_eq hoptions
    · intro hmem hmem'
      have hle := hfront' _ _ hmem hclaims
      have hlt := hback _ _ hmem' hclaims'
      omega
    · intro hmem' hmem
      have hle := hfront _ _ hmem' hclaims'
      have hlt := hback' _ _ hmem hclaims
      omega
  simp only [RenderOption.extension.injEq, Extension.mk.injEq] at hsame
  have hentry := eq_of_append_cons_eq hsame.2
    (fun _ hmem' => hlater _ hmem' rfl) (fun _ hmem => hlater' _ hmem rfl)
  exact congrArg Prod.snd hentry

end IsDecided

/-- What an option asks for depends only on the options about the same subject. -/
theorem filterMap_eq_of_subject {α : Type} {asked? : RenderOption → Option α} {subject : Subject}
    (hasked : ∀ option, option.subject ≠ subject → asked? option = none)
    (options : List RenderOption) :
    options.filterMap asked? = (options.filter (·.subject = subject)).filterMap asked? := by
  rw [List.filterMap_filter]
  refine List.filterMap_congr fun option _ => ?_
  by_cases hsubject : option.subject = subject
  · simp [hsubject]
  · simp [hsubject, hasked option hsubject]

/-- The last option on a subject stays the last one. -/
theorem Reorders.lastAsked_eq {α : Type} {options others : List RenderOption}
    (hreorders : Reorders options others) (asked? : RenderOption → Option α) (subject : Subject)
    (hasked : ∀ option, option.subject ≠ subject → asked? option = none) (present : α) :
    lastAsked asked? others present = lastAsked asked? options present := by
  rw [lastAsked, lastAsked, filterMap_eq_of_subject hasked others,
    filterMap_eq_of_subject hasked options, hreorders subject]

end RenderOption

open RenderOption

/-- A configuration in which the options have the settings that they ask for last. -/
def Config.asked (config : Config) (options : List RenderOption) : Config where
  indentStyle := lastAsked indentStyle? options config.indentStyle
  headingStyle := lastAsked headingStyle? options config.headingStyle
  breakStyle := lastAsked breakStyle? options config.breakStyle
  breakLength := lastAsked breakLength? options config.breakLength
  nestedListLength := lastAsked nestedListLength? options config.nestedListLength

namespace Renderer

/-- A setting ends up as the last option for it asks, if each one sets what it asks for and
leaves the others alone. -/
theorem foldl_configure_field {α : Type} {field : Config → α} {asked? : RenderOption → Option α}
    (hfield : ∀ config option, field (configure config option) =
      (asked? option).getD (field config))
    (options : List RenderOption) (config : Config) :
    field (options.foldl configure config) = lastAsked asked? options (field config) := by
  induction options generalizing config with
  | nil => rfl
  | cons option rest ih =>
      rw [List.foldl_cons, ih, hfield, lastAsked, lastAsked, List.filterMap_cons]
      cases asked? option with
      | none => rfl
      | some wanted => simp [List.getLast?_cons]

/-- Each setting is the one that was asked for last. -/
theorem foldl_configure (options : List RenderOption) (config : Config) :
    options.foldl configure config = config.asked options := by
  have hindent := @foldl_configure_field _ Config.indentStyle indentStyle?
    (by rintro config (_ | _) <;> rfl) options config
  have hheading := @foldl_configure_field _ Config.headingStyle headingStyle?
    (by rintro config (_ | _) <;> rfl) options config
  have hbreak := @foldl_configure_field _ Config.breakStyle breakStyle?
    (by rintro config (_ | _) <;> rfl) options config
  have hlength := @foldl_configure_field _ Config.breakLength breakLength?
    (by rintro config (_ | _) <;> rfl) options config
  have hnested := @foldl_configure_field _ Config.nestedListLength nestedListLength?
    (by rintro config (_ | _) <;> rfl) options config
  rw [Config.asked, ← hindent, ← hheading, ← hbreak, ← hlength, ← hnested]

/-- An extension has a function for the kinds that it claims. -/
theorem lookup_reverse_eq_none_iff {extension : Extension} {kind : Kind} :
    extension.registrations.reverse.lookup kind = none ↔ ¬ extension.Claims kind := by
  rw [List.lookup_eq_none_iff, Extension.Claims, List.mem_map, not_exists]
  refine forall_congr' fun entry => ?_
  rw [List.mem_reverse, bne_iff_ne, not_and]
  exact imp_congr_right fun _ => ne_comm

/-- The first list that has an entry decides. -/
theorem lookup_flatMap {α β γ : Type} [BEq β] (f : α → List (β × γ)) (things : List α) (b : β) :
    (things.flatMap f).lookup b = things.findSome? fun thing => (f thing).lookup b := by
  induction things with
  | nil => rfl
  | cons thing rest ih =>
      rw [List.flatMap_cons, List.lookup_append, ih, List.findSome?_cons]
      cases (f thing).lookup b <;> rfl

/-- The extensions that options install, with their priorities, in ascending order. -/
def sortedExtensions (options : List RenderOption) : List (Int × Extension) :=
  (options.filterMap prioritised?).mergeSort fun a b => a.1 ≤ b.1

/-- Extensions are installed by ascending priority. -/
theorem pairwise_sortedExtensions (options : List RenderOption) :
    (sortedExtensions options).Pairwise fun a b => a.1 ≤ b.1 :=
  pairwise_key_mergeSort Prod.fst _

/-- Only extensions have priorities. -/
theorem eq_extension_of_prioritised? {option : RenderOption} {priority : Int}
    {extension : Extension} (hfound : prioritised? option = some (priority, extension)) :
    option = .extension priority extension := by
  cases option with
  | extension other found =>
      cases hfound
      rfl
  | _ => cases hfound

/-- All extensions that are given are found. -/
theorem mem_filterMap_prioritised? {options : List RenderOption} {priority : Int}
    {extension : Extension} : (priority, extension) ∈ options.filterMap prioritised? ↔
      .extension priority extension ∈ options := by
  rw [List.mem_filterMap]
  constructor
  · rintro ⟨option, hoption, hfound⟩
    rwa [← eq_extension_of_prioritised? hfound]
  · intro hoption
    exact ⟨_, hoption, rfl⟩

/-- All of them are installed. -/
theorem mem_sortedExtensions {options : List RenderOption} {priority : Int}
    {extension : Extension} : (priority, extension) ∈ sortedExtensions options ↔
      .extension priority extension ∈ options := by
  rw [sortedExtensions, List.mem_mergeSort, mem_filterMap_prioritised?]

/-- Installing several extensions is installing their registrations one after the other. -/
theorem foldl_install (extensions : List Extension) (renderer : Renderer) :
    extensions.foldl install renderer =
      renderer.install ⟨extensions.flatMap Extension.registrations⟩ := by
  rw [install, List.foldl_flatMap]
  rfl

/-- A kind gets the function that is found first in the extensions from the last one back. -/
theorem functions_addOptions (renderer : Renderer) (options : List RenderOption) (kind : Kind) :
    (renderer.addOptions options).functions kind =
      match (sortedExtensions options).reverse.findSome? fun entry =>
        entry.2.registrations.reverse.lookup kind with
      | some render => some (if kind.isBlock then asBlock render else render)
      | none => renderer.functions kind := by
  have hinOrder : extensionsInOrder options = (sortedExtensions options).map Prod.snd := rfl
  rw [addOptions, foldl_install, functions_install, hinOrder, List.flatMap_map,
    List.reverse_flatMap, lookup_flatMap]
  rfl

section Found

variable {options : List RenderOption} {kind : Kind} {priority : Int} {extension : Extension}
  {earlier later : List (Int × Extension)}
  (hsorted : sortedExtensions options = earlier ++ (priority, extension) :: later)
  (hunclaimed : ∀ other found, (other, found) ∈ later → ¬ found.Claims kind)
include hsorted hunclaimed

/-- No extension that claims the kind has a higher priority than the last one of them. -/
theorem le_of_claims {other : Int} {found : Extension}
    (hoption : .extension other found ∈ options) (hclaims : found.Claims kind) :
    other ≤ priority := by
  have hmem : (other, found) ∈ sortedExtensions options := mem_sortedExtensions.mpr hoption
  have hpairs := pairwise_sortedExtensions options
  rw [hsorted] at hmem hpairs
  rcases List.mem_append.mp hmem with hearlier | hrest
  · exact (List.pairwise_append.mp hpairs).2.2 _ hearlier _ List.mem_cons_self
  · rcases List.mem_cons.mp hrest with heq | hlater
    · exact Int.le_of_eq (congrArg Prod.fst heq)
    · exact absurd hclaims (hunclaimed other found hlater)

/-- Where that extension stands among the options, those behind it that claim the kind have a
lower priority. -/
theorem exists_option_of_sorted : ∃ front back,
    options = front ++ .extension priority extension :: back ∧
    ∀ other found, .extension other found ∈ back → found.Claims kind → other < priority := by
  -- Those of the same priority stand in the options as they do in the sorted list.
  have hsame := filter_key_mergeSort Prod.fst (options.filterMap prioritised?) priority
  rw [← sortedExtensions, hsorted, List.filter_append, List.filter_cons_of_pos (by simp)] at hsame
  obtain ⟨front, rest, hentries, -, hrest⟩ := List.filter_eq_append_iff.mp hsame.symm
  obtain ⟨between, behind, rfl, -, -, hbehind⟩ := List.filter_eq_cons_iff.mp hrest
  rw [← List.append_assoc] at hentries
  obtain ⟨given, following, rfl, -, hfollowing⟩ := List.filterMap_eq_append_iff.mp hentries
  obtain ⟨passed, option, back, rfl, -, hoption, hback⟩ := List.filterMap_eq_cons_iff.mp hfollowing
  obtain rfl := eq_extension_of_prioritised? hoption
  refine ⟨given ++ passed, back, by rw [List.append_assoc], fun other found hmem hclaims => ?_⟩
  have hle : other ≤ priority := le_of_claims hsorted hunclaimed (by simp [hmem]) hclaims
  refine Int.lt_iff_le_and_ne.mpr ⟨hle, fun heq => ?_⟩
  have hlater : (other, found) ∈ behind.filter (Prod.fst · = priority) := by
    rw [List.mem_filter, ← hback]
    exact ⟨mem_filterMap_prioritised?.mpr hmem, by simp [heq]⟩
  rw [hbehind] at hlater
  exact hunclaimed other found (List.mem_of_mem_filter hlater) hclaims

end Found

/-- What is found is what the options decide on. -/
theorem isDecided_of_findSome? {options : List RenderOption} {kind : Kind} {render : RenderFn}
    (hfound : (sortedExtensions options).reverse.findSome? (fun entry =>
      entry.2.registrations.reverse.lookup kind) = some render) :
    IsDecided options kind render := by
  obtain ⟨later, ⟨priority, extension⟩, earlier, hsplit, hlookup, hnone⟩ :=
    List.findSome?_eq_some_iff.mp hfound
  have hsorted : sortedExtensions options =
      earlier.reverse ++ (priority, extension) :: later.reverse := by
    rw [← List.reverse_reverse (sortedExtensions options), hsplit]
    simp
  have hunclaimed : ∀ other found, (other, found) ∈ later.reverse → ¬ found.Claims kind :=
    fun other found hmem => lookup_reverse_eq_none_iff.mp (hnone _ (List.mem_reverse.mp hmem))
  obtain ⟨registered, others, hregistrations, hdifferent⟩ := List.lookup_eq_some_iff.mp hlookup
  obtain ⟨front, back, rfl, hback⟩ := exists_option_of_sorted hsorted hunclaimed
  have hextension : extension = ⟨others.reverse ++ (kind, render) :: registered.reverse⟩ := by
    have hreversed := congrArg List.reverse hregistrations
    rw [List.reverse_reverse] at hreversed
    obtain ⟨registrations⟩ := extension
    simpa using hreversed
  subst hextension
  refine ⟨front, priority, others.reverse, registered.reverse, back, rfl, ?_, ?_, hback⟩
  · intro entry hentry
    exact (bne_iff_ne.mp (hdifferent entry (List.mem_reverse.mp hentry))).symm
  · intro other found hmem hclaims
    exact le_of_claims hsorted hunclaimed (List.mem_append_left _ hmem) hclaims

/-- A kind that is claimed is decided. -/
theorem exists_findSome?_of_claims {options : List RenderOption} {kind : Kind} {priority : Int}
    {extension : Extension} (hoption : .extension priority extension ∈ options)
    (hclaims : extension.Claims kind) :
    ∃ render, (sortedExtensions options).reverse.findSome? (fun entry =>
      entry.2.registrations.reverse.lookup kind) = some render := by
  rw [← Option.isSome_iff_exists, Option.isSome_iff_ne_none, Ne, List.findSome?_eq_none_iff]
  intro hnone
  exact lookup_reverse_eq_none_iff.mp
    (hnone _ (List.mem_reverse.mpr (mem_sortedExtensions.mpr hoption))) hclaims

/-- The extensions of a priority keep their order. -/
theorem filter_prioritised? (options : List RenderOption) (priority : Int) :
    (options.filterMap prioritised?).filter (Prod.fst · = priority) =
      (options.filter (·.subject = .extension priority)).filterMap prioritised? := by
  rw [List.filter_filterMap, List.filterMap_filter]
  refine List.filterMap_congr fun option _ => ?_
  cases option <;> simp [prioritised?, subject, Option.filter]

/-- Extensions of different priorities may change places. -/
theorem sortedExtensions_eq_of_reorders {options others : List RenderOption}
    (hreorders : Reorders options others) : sortedExtensions others = sortedExtensions options := by
  apply eq_of_filter_key_eq (pairwise_sortedExtensions others) (pairwise_sortedExtensions options)
  intro priority
  rw [sortedExtensions, sortedExtensions, filter_key_mergeSort, filter_key_mergeSort,
    filter_prioritised?, filter_prioritised?, hreorders]

/-- Options for different settings may change places. -/
theorem asked_eq_of_reorders {options others : List RenderOption}
    (hreorders : Reorders options others) (config : Config) :
    config.asked others = config.asked options := by
  have hindent := hreorders.lastAsked_eq indentStyle? .indentStyle
    (by rintro (_ | _) <;> simp [subject, indentStyle?])
  have hheading := hreorders.lastAsked_eq headingStyle? .headingStyle
    (by rintro (_ | _) <;> simp [subject, headingStyle?])
  have hbreak := hreorders.lastAsked_eq breakStyle? .breakStyle
    (by rintro (_ | _) <;> simp [subject, breakStyle?])
  have hlength := hreorders.lastAsked_eq breakLength? .breakLength
    (by rintro (_ | _) <;> simp [subject, breakLength?])
  have hnested := hreorders.lastAsked_eq nestedListLength? .nestedListLength
    (by rintro (_ | _) <;> simp [subject, nestedListLength?])
  simp only [Config.asked, hindent, hheading, hbreak, hlength, hnested]

/-- Extensions change no setting. -/
theorem config_foldl_install (extensions : List Extension) (renderer : Renderer) :
    (extensions.foldl install renderer).config = renderer.config := by
  rw [foldl_install, config_install]

/-- Only the last option for each setting counts, and for each kind that is claimed what its
extension of the highest priority registers last; a kind that is not claimed keeps its built-in
function. So it makes no difference how options for different settings and extensions of
different priorities are ordered. -/
theorem addOptions_eq_of_reorders (config : Config) (options : List RenderOption) :
    let renderer := (standard config).addOptions options
    renderer.config = config.asked options ∧
    (∀ kind, (∃ priority extension, .extension priority extension ∈ options ∧
        extension.Claims kind) → ∃ render, IsDecided options kind render) ∧
    (∀ kind render, IsDecided options kind render →
      renderer.functions kind = some (if kind.isBlock then asBlock render else render)) ∧
    (∀ kind, (∀ priority extension, .extension priority extension ∈ options →
        ¬ extension.Claims kind) →
      renderer.functions kind = builtIn kind) ∧
    ∀ others, Reorders options others → (standard config).addOptions others = renderer := by
  intro renderer
  refine ⟨?_, ?_, ?_, ?_, ?_⟩
  · exact (config_foldl_install _ _).trans (foldl_configure options config)
  · rintro kind ⟨priority, extension, hoption, hclaims⟩
    obtain ⟨render, hfound⟩ := exists_findSome?_of_claims hoption hclaims
    exact ⟨render, isDecided_of_findSome? hfound⟩
  · intro kind render hdecided
    obtain ⟨priority, extension, hoption, hclaims⟩ := hdecided.exists_claims
    obtain ⟨other, hfound⟩ := exists_findSome?_of_claims hoption hclaims
    rw [functions_addOptions, hfound, (isDecided_of_findSome? hfound).unique hdecided]
  · intro kind hunclaimed
    have hnone : (sortedExtensions options).reverse.findSome? (fun entry =>
        entry.2.registrations.reverse.lookup kind) = none := by
      rw [List.findSome?_eq_none_iff]
      rintro ⟨priority, extension⟩ hmem
      rw [List.mem_reverse, mem_sortedExtensions] at hmem
      exact lookup_reverse_eq_none_iff.mpr (hunclaimed priority extension hmem)
    rw [functions_addOptions, hnone]
    rfl
  · intro others hreorders
    have hinOrder : extensionsInOrder others = extensionsInOrder options :=
      congrArg (List.map Prod.snd) (sortedExtensions_eq_of_reorders hreorders)
    have hconfig : others.foldl configure config = options.foldl configure config := by
      rw [foldl_configure, foldl_configure, asked_eq_of_reorders hreorders]
    simp only [renderer, addOptions, hinOrder, standard, hconfig]

/-- Two lengths, and two extensions that claim the same kind, one of them twice. -/
def rivals : List RenderOption :=
  [.extension 10 ⟨[(.emphasis, wordThen ['a'] .proceed), (.emphasis, wordThen ['b'] .proceed)]⟩,
    .breakLength 4, .extension 1 ⟨[(.emphasis, wordThen ['c'] .proceed)]⟩, .breakLength 5]

/-- The same options with the extensions the other way round. -/
def rivalsTurned : List RenderOption :=
  [.breakLength 4, .extension 1 ⟨[(.emphasis, wordThen ['c'] .proceed)]⟩, .breakLength 5,
    .extension 10 ⟨[(.emphasis, wordThen ['a'] .proceed), (.emphasis, wordThen ['b'] .proceed)]⟩]

/-- The higher priority wins although its extension comes first. -/
theorem addOptions_eq_of_reorders_rivals :
    let renderer := (standard {}).addOptions rivals
    Reorders rivals rivalsTurned ∧ (standard {}).addOptions rivalsTurned = renderer ∧
    IsDecided rivals .emphasis (wordThen ['b'] .proceed) ∧
    renderer.functions .emphasis = some (wordThen ['b'] .proceed) ∧
    renderer.functions .heading = builtIn .heading ∧ renderer.config.breakLength = 5 := by
  intro renderer
  obtain ⟨hconfig, -, hdecides, hunclaimed, hsame⟩ := addOptions_eq_of_reorders {} rivals
  have hreorders : Reorders rivals rivalsTurned := by
    intro subject
    cases subject with
    | extension priority =>
        by_cases hhigh : priority = 10
        · subst hhigh
          rfl
        · by_cases hlow : priority = 1
          · subst hlow
            rfl
          · simp [rivals, rivalsTurned, RenderOption.subject, Ne.symm hhigh, Ne.symm hlow]
    | _ => rfl
  have hdecided : IsDecided rivals .emphasis (wordThen ['b'] .proceed) := by
    refine ⟨[], 10, [(.emphasis, wordThen ['a'] .proceed)], [], rivals.tail, rfl, by simp,
      by simp, ?_⟩
    intro other extension hmem _
    simp [rivals] at hmem
    omega
  refine ⟨hreorders, hsame rivalsTurned hreorders, hdecided, hdecides _ _ hdecided, ?_, ?_⟩
  · apply hunclaimed
    intro priority extension hmem
    simp [rivals] at hmem
    rcases hmem with ⟨-, rfl⟩ | ⟨-, rfl⟩ <;> simp [Extension.Claims]
  · rw [hconfig]
    rfl

end Renderer

end MarkdownFormat
