/-
# Thematic breaks behind bullets

A thematic break at the start of an item is written on the line of the item's bullet. If
both have the same character, the reader takes that line for a longer thematic break. The
item is gone when the text is formatted again, and only the break is left.
-/

import Mathlib
import MarkdownFormat.Format
import MarkdownFormat.Proofs.Reader.RuleLine
import MarkdownFormat.Proofs.Render.Printing
import MarkdownFormat.Proofs.Text.Boundary

namespace MarkdownFormat

/-- A line without blanks at its end is finished by a newline alone. -/
theorem finished_encode {text : List Char} (htrimmed : dropTrailing isBlank text = text) :
    finished (Utf8.encode text) = Utf8.encode (text ++ ['\n']) := by
  rw [finished, Utf8.trimmedLine_encode, htrimmed, Utf8.encode_append]
  rfl

/-- A document whose tree is printed as one line is rendered as that line. -/
theorem Renderer.renderText_of_line (config : Config) (source : Bytes) {document : Document}
    {tree : Tree} {text : List Char} (hholds : document.Holds tree Document.root)
    (hmarkdown : tree.isMarkdown) (hblock : tree.kind.isBlock) (hroot : tree.kind ≠ .listItem)
    (hline : Printer.print config source
      ((document.node Document.root).previous.map document.kind) tree = [Utf8.encode text])
    (htrimmed : dropTrailing isBlank text = text) :
    ((standard config).renderText source document).1 = .ok (String.ofList (text ++ ['\n'])) := by
  obtain ⟨last, hrender, hreceived⟩ :=
    render_block config source .unlimited rfl hholds hmarkdown hblock hroot
  rw [hline] at hreceived
  have hlines : last.writer.sink.received.toList = [Utf8.encode (text ++ ['\n'])] := by
    rw [← finished_encode htrimmed]
    exact hreceived
  have hdecoded : Utf8.decode last.writer.sink.content = .ok (text ++ ['\n']) := by
    rw [Sink.content, hlines, List.flatten_singleton, Utf8.decode_encode]
  simp only [renderText, hrender, hdecoded]

/-- The characters of a thematic break in the configured style. -/
def Config.ruleText (config : Config) : List Char :=
  List.replicate config.effectiveBreakLength config.breakStyle.char

namespace Config

variable (config : Config)

/-- The style has one of the three marks. -/
theorem char_mem_marks : config.breakStyle.char ∈ ['-', '*', '_'] := by
  cases config.breakStyle <;> decide

/-- A thematic break is not cut at its end. -/
theorem trimmed_ruleText (front : List Char) :
    dropTrailing isBlank (front ++ config.ruleText) = front ++ config.ruleText := by
  apply dropTrailing_append_replicate
  · cases config.breakStyle <;> decide
  · exact Nat.lt_of_lt_of_le (by decide) config.three_le_effectiveBreakLength

/-- First in its container, a thematic break has the configured style. -/
theorem rule_eq_ruleText (label : Label) :
    Printer.rule config none label = Utf8.encode config.ruleText := by
  simp [Printer.rule, Printer.followsText, ruleText]

end Config

/-- The document of a thematic break and nothing else. -/
def Document.ofRule (range : Segment) : Document :=
  ⟨#[{ element := .document, firstChild := some 1, lastChild := some 1 },
    { element := .thematicBreak, parent := some 0, range := some range }]⟩

/-- The event of a thematic break makes the document of it. -/
theorem Assembly.document_ofEvents_rule (source : Bytes) (range : Segment) :
    (ofEvents source [⟨.rule, range⟩]).document = .ofRule range := by
  cbv

/-- A line that is a thematic break in any spelling is formatted as one in the configured
style. -/
theorem format_of_isRuleLine (config : Config) {source : Bytes}
    (hline : Markdown.isRuleLine source) :
    format config false source = .ok (String.ofList (config.ruleText ++ ['\n'])) := by
  obtain ⟨range, hevents⟩ := Markdown.events_of_isRuleLine hline false
  have hdocument : Document.ofMarkdown source false = .ofRule range := by
    rw [Document.ofMarkdown, hevents, Assembly.document_ofEvents_rule]
  have hholds : (Document.ofRule range).Holds (.node { element := .document } [
      .node { element := .thematicBreak, range := some range } []]) Document.root :=
    ⟨Nat.zero_lt_two, rfl, [1], ⟨rfl, rfl, rfl, rfl, rfl⟩, 1, [], rfl,
      ⟨Nat.one_lt_two, rfl, [], ⟨rfl, rfl⟩, rfl⟩, rfl⟩
  show ((Renderer.standard config).renderText source _).1 = _
  rw [hdocument]
  apply Renderer.renderText_of_line config source hholds rfl rfl Kind.noConfusion
  · rw [← config.rule_eq_ruleText { element := .thematicBreak, range := some range }]
    rfl
  · exact config.trimmed_ruleText []

section BulletRule

variable (config : Config) {bullet mark : Char} {count : Nat}

/-- The document of an item that holds a thematic break. -/
def Document.ofBulletRule (marker : UInt8) (list item rule : Segment) : Document :=
  ⟨#[{ element := .document, firstChild := some 1, lastChild := some 1 },
    { element := .list marker false 1, parent := some 0, firstChild := some 2,
      lastChild := some 2, range := some list },
    { element := .listItem, parent := some 1, firstChild := some 3, lastChild := some 3,
      range := some item },
    { element := .thematicBreak, parent := some 2, range := some rule }]⟩

/-- The tree of that document. -/
def Tree.ofBulletRule (marker : UInt8) (list item rule : Segment) : Tree :=
  .node { element := .document } [
    .node { element := .list marker false 1, range := some list } [
      .node { element := .listItem, range := some item } [
        .node { element := .thematicBreak, range := some rule } []]]]

/-- The document holds the list, the item and the break. -/
theorem Document.ofBulletRule_holds (marker : UInt8) (list item rule : Segment) :
    (ofBulletRule marker list item rule).Holds (.ofBulletRule marker list item rule) root :=
  ⟨(by decide : 0 < 4), rfl, [1], ⟨rfl, rfl, rfl, rfl, rfl⟩, 1, [], rfl,
    ⟨(by decide : 1 < 4), rfl, [2], ⟨rfl, rfl, rfl, rfl, rfl⟩, 2, [], rfl,
      ⟨(by decide : 2 < 4), rfl, [3], ⟨rfl, rfl, rfl, rfl, rfl⟩, 3, [], rfl,
        ⟨(by decide : 3 < 4), rfl, [], ⟨rfl, rfl⟩, rfl⟩, rfl⟩, rfl⟩, rfl⟩

/-- The events of a break in an item make this document. -/
theorem Assembly.document_ofEvents_bulletRule (source : Bytes) (list item rule : Segment) :
    (ofEvents source [⟨.opened (.list none), list⟩, ⟨.opened .item, item⟩, ⟨.rule, rule⟩,
      ⟨.closed .other, item⟩, ⟨.closed .other, list⟩]).document =
        .ofBulletRule (Spelling.listMarker source list.start false) list item rule := by
  cbv

/-- The marker of the list is the bullet. -/
theorem listMarker_bulletRule (hbullet : bullet ∈ ['-', '+', '*']) :
    Spelling.listMarker (Utf8.encode (bulletRule bullet mark count)) 0 false =
      bullet.toNat.toUInt8 := by
  simp only [List.mem_cons, List.not_mem_nil, or_false] at hbullet
  rcases hbullet with rfl | rfl | rfl <;> rfl

/-- Rendering writes the bullet in front of the configured break. -/
theorem renderText_ofBulletRule (source : Bytes) (hbullet : bullet ∈ ['-', '+', '*'])
    (list item rule : Segment) :
    ((Renderer.standard config).renderText source
      (.ofBulletRule bullet.toNat.toUInt8 list item rule)).1 =
        .ok (String.ofList
          (bulletRule bullet config.breakStyle.char config.effectiveBreakLength)) := by
  have hascii := (Opening.plain_of_mem_bullets bullet hbullet).1.1
  have hmarkdown : (Tree.ofBulletRule bullet.toNat.toUInt8 list item rule).isMarkdown := by
    have hmarker : ∀ bullet ∈ ['-', '+', '*'], bullet.toNat.toUInt8 < 0x80 := by
      simp only [List.forall_mem_cons, List.not_mem_nil, false_implies, implies_true, and_true]
      decide
    simp [Tree.ofBulletRule, Tree.isMarkdown, Tree.areMarkdown, Tree.kind, Tree.label,
      Element.kind, Element.hasPlainMarker, Kind.isCore, Kind.mayHold, Kind.isBlock,
      hmarker _ hbullet]
  refine Renderer.renderText_of_line config source (Document.ofBulletRule_holds _ _ _ _) hmarkdown
    rfl Kind.noConfusion ?_ (config.trimmed_ruleText [bullet, ' '])
  have hencoded : Utf8.encode [bullet, ' '] = [bullet.toNat.toUInt8, 0x20] := by
    rw [← List.singleton_append, Utf8.encode_append]
    show (Utf8.encodeChar bullet ++ []) ++ _ = _
    rw [Utf8.encodeChar_of_lt hascii]
    rfl
  rw [Utf8.encode_append, hencoded,
    ← config.rule_eq_ruleText { element := .thematicBreak, range := some rule }]
  rfl

/-- An item that starts with a thematic break is formatted as its bullet and the configured
break, unless bullet and break have the same character: that line is one thematic break. -/
theorem format_bulletRule (hbullet : bullet ∈ ['-', '+', '*']) (hmark : mark ∈ ['-', '*', '_'])
    (hcount : 3 ≤ count) :
    format config false (Utf8.encode (bulletRule bullet mark count)) =
      .ok (String.ofList (if mark = bullet then config.ruleText ++ ['\n']
        else bulletRule bullet config.breakStyle.char config.effectiveBreakLength)) := by
  split
  case isTrue hsame =>
    subst hsame
    apply format_of_isRuleLine
    have hrest : ∀ c ∈ ' ' :: List.replicate count mark, c = mark ∨ c = ' ' :=
      List.forall_mem_cons.mpr ⟨.inr rfl, fun c hc => .inl (List.eq_of_mem_replicate hc)⟩
    apply Markdown.isRuleLine_of_marks hmark hrest
    rw [List.count_cons, List.count_replicate_self]
    omega
  case isFalse hne =>
    obtain ⟨list, item, rule, hstart, hevents⟩ :=
      Markdown.events_bulletRule hbullet hmark hne hcount false
    show ((Renderer.standard config).renderText _ (Document.ofMarkdown _ false)).1 = _
    rw [Document.ofMarkdown, hevents, Assembly.document_ofEvents_bulletRule, hstart,
      listMarker_bulletRule hbullet]
    exact renderText_ofBulletRule config _ hbullet list item rule

/-- Formatting an item that starts with a thematic break of other characters than its bullet
and formatting the result again come to the same just if the configured break has other
characters than the bullet, too. This settles the sources that consist of one such line. It does
not say that formatting a source of another form twice is the same as formatting it once; there
are others for which it is not. -/
theorem format_format_bulletRule_iff (hbullet : bullet ∈ ['-', '+', '*'])
    (hmark : mark ∈ ['-', '*', '_']) (hne : mark ≠ bullet) (hcount : 3 ≤ count) :
    ∃ once twice, format config false (Utf8.encode (bulletRule bullet mark count)) = .ok once ∧
      format config false (Utf8.ofString once) = .ok twice ∧
      (twice = once ↔ config.breakStyle.char ≠ bullet) := by
  have hfirst := format_bulletRule config hbullet hmark hcount
  have hsecond := format_bulletRule config hbullet config.char_mem_marks
    config.three_le_effectiveBreakLength
  rw [if_neg hne] at hfirst
  refine ⟨_, _, hfirst, by rw [Utf8.ofString, String.toList_ofList]; exact hsecond, ?_⟩
  split
  case isTrue hsame =>
    refine iff_of_false ?_ (not_not_intro hsame)
    intro h
    have hlength := congrArg (fun text => text.toList.length) h
    simp only [String.toList_ofList, bulletRule, Config.ruleText, List.length_cons,
      List.length_append, List.length_replicate] at hlength
    omega
  case isFalse hother => exact iff_of_true rfl hother

end BulletRule

/-- Asterisks behind a dash become dashes, and those take in the dash before them. -/
theorem format_format_bulletRule_iff_dashed :
    '-' ∈ ['-', '+', '*'] ∧ '*' ∈ ['-', '*', '_'] ∧ '*' ≠ '-' ∧ 3 ≤ 3 ∧
      ∃ once twice, format {} false (Utf8.ofString "- ***\n") = .ok once ∧
        format {} false (Utf8.ofString once) = .ok twice ∧ twice ≠ once := by
  have hbullet : '-' ∈ ['-', '+', '*'] := by decide
  have hmark : '*' ∈ ['-', '*', '_'] := by decide
  have hne : '*' ≠ '-' := by decide
  obtain ⟨once, twice, honce, htwice, hsame⟩ :=
    format_format_bulletRule_iff {} hbullet hmark hne (Nat.le_refl 3)
  exact ⟨hbullet, hmark, hne, Nat.le_refl 3, once, twice, honce, htwice,
    fun h => hsame.mp h rfl⟩

/-- Formatting is not idempotent. -/
theorem format_not_idempotent : ¬ ∀ (config : Config) (source : Bytes) (text : String),
    format config false source = .ok text → format config false (Utf8.ofString text) = .ok text := by
  intro hall
  have hfirst : format {} false (Utf8.ofString "- ***\n") = .ok "- ---\n" := by
    cbv
  have hsecond : format {} false (Utf8.ofString "- ---\n") = .ok "---\n" := by
    cbv
  have hsame := hall {} _ _ hfirst
  rw [hsecond] at hsame
  exact absurd hsame (by decide)

end MarkdownFormat
