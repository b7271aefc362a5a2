/-
# The last line

A rendered text is nothing or ends in a newline, since all that is delivered are lines with
their endings. It ends in exactly one newline unless the last line is blank. Which line is the
last one, and whether it is blank, is said here by a recursion over the tree: what stands in
front of an item or in a quote can be seen, but the empty line that sets off a block is there
even if nothing is written for that block.
-/

import MarkdownFormat.Proofs.Render.CodeFence
import MarkdownFormat.Proofs.Render.FailingSink
import MarkdownFormat.Proofs.Render.FinalLines
import MarkdownFormat.Proofs.Render.IndentedCode

namespace MarkdownFormat

open Utf8 (IsText)

/-- What the last of some lines is like. A line is blank if nothing is left of it when its end is
cut. -/
inductive Ending
  /-- There is no line. -/
  | nothing
  /-- There is one line, and it is blank. -/
  | oneBlank
  /-- There are several lines, and the last is blank. -/
  | blank
  /-- The last line is not blank. -/
  | shown
  deriving DecidableEq, Repr

namespace Ending

/-- Whether there is a last line, a blank one. -/
def isBlank : Ending → Bool
  | .oneBlank | .blank => true
  | _ => false

/-- What lines end like behind others. -/
def andThen : Ending → Ending → Ending
  | first, .nothing => first
  | .nothing, later => later
  | _, .shown => .shown
  | _, _ => .blank

/-- What a line is like that stands alone. -/
def ofLine (line : Bytes) : Ending :=
  if trimmedLine line = [] then .oneBlank else .shown

/-- What some lines end like. -/
def ofLines : List Bytes → Ending
  | [] => .nothing
  | line :: lines => (ofLine line).andThen (ofLines lines)

/-- What lines end like that hang on a front, which the first of them has. -/
def behind (first : Bytes) : Ending → Ending
  | .oneBlank => ofLine first
  | ending => ending

/-- What lines end like in a quote. -/
def quoted : Ending → Ending
  | .nothing => .nothing
  | _ => .shown

/-- Nothing before does not matter. -/
theorem nothing_andThen (later : Ending) : nothing.andThen later = later := by
  cases later <;> rfl

/-- It does not matter how ends are put together. -/
theorem andThen_assoc (first middle later : Ending) :
    (first.andThen middle).andThen later = first.andThen (middle.andThen later) := by
  cases first <;> cases middle <;> cases later <;> rfl

/-- A last line that stands alone is blank or not, and so it is behind others. -/
theorem isBlank_andThen_ofLine (first : Ending) (line : Bytes) :
    (first.andThen (ofLine line)).isBlank = decide (trimmedLine line = []) := by
  rw [ofLine]
  split
  · next hblank => cases first <;> simp [andThen, isBlank, hblank]
  · next hshown => cases first <;> simp [andThen, isBlank, hshown]

/-- One line is blank or shows something. -/
theorem ofLine_cases (line : Bytes) : ofLine line = .oneBlank ∨ ofLine line = .shown := by
  rw [ofLine]
  split
  · exact .inl rfl
  · exact .inr rfl

/-- What lines put together end like is told by what each part ends like. -/
theorem ofLines_append (front back : List Bytes) :
    ofLines (front ++ back) = (ofLines front).andThen (ofLines back) := by
  induction front with
  | nil => exact (nothing_andThen _).symm
  | cons line front ih => rw [List.cons_append, ofLines, ih, ofLines, andThen_assoc]

/-- One line ends as it is. -/
theorem ofLines_singleton (line : Bytes) : ofLines [line] = ofLine line := rfl

/-- What stands before a line may show in it. -/
theorem ofLine_append {front : Bytes} (hfront : IsText front) (line : Bytes) :
    ofLine (front ++ line) = (ofLine line).behind front := by
  by_cases hline : trimmedLine line = []
  · rw [ofLine, Utf8.trimmedLine_append_of_eq_nil hfront hline, ofLine, if_pos hline]
    rfl
  · have hwhole : trimmedLine (front ++ line) ≠ [] := by
      rw [Utf8.trimmedLine_append_of_ne_nil hfront hline]
      exact List.append_ne_nil_of_right_ne_nil _ hline
    rw [ofLine, if_neg hwhole, ofLine, if_neg hline]
    rfl

/-- Blanks before a line do not show. -/
theorem behind_of_blank {front : Bytes} (hblank : trimmedLine front = []) (ending : Ending) :
    ending.behind front = ending := by
  cases ending with
  | oneBlank => exact if_pos hblank
  | nothing | blank | shown => rfl

/-- A front matters only if no other line follows the first one. -/
theorem behind_andThen (front : Bytes) {first : Ending}
    (hfirst : first = .oneBlank ∨ first = .shown) (later : Ending) :
    (first.behind front).andThen later = (first.andThen later).behind front := by
  rcases hfirst with rfl | rfl
  · rw [behind]
    rcases ofLine_cases front with hfront | hfront <;> rw [hfront] <;> cases later <;>
      first | rfl | exact hfront.symm
  · cases later <;> rfl

/-- Lines that hang on a front have it on the first of them, and nothing to see before the
others. -/
theorem ofLines_hang {first later : Bytes} (hfirst : IsText first) (hlater : IsText later)
    (hblank : trimmedLine later = []) (lines : List Bytes) :
    ofLines (hang first later lines) = (ofLines lines).behind first := by
  cases lines with
  | nil => rfl
  | cons line lines =>
      have hrest : ofLines (lines.map (later ++ ·)) = ofLines lines := by
        induction lines with
        | nil => rfl
        | cons other lines ih =>
            rw [List.map_cons, ofLines, ih, ofLine_append hlater, behind_of_blank hblank, ofLines]
      rw [hang, ofLines, hrest, ofLine_append hfirst, ofLines]
      exact behind_andThen first (ofLine_cases line) _

/-- Each line of a quote shows its sign. -/
theorem ofLines_quoted (lines : List Bytes) :
    ofLines (lines.map (Utf8.encode ['>', ' '] ++ ·)) = (ofLines lines).quoted := by
  have hsign : ofLine (Utf8.encode ['>', ' ']) = .shown := by decide +kernel
  have hline : ∀ line, ofLine (Utf8.encode ['>', ' '] ++ line) = .shown := by
    intro line
    rw [ofLine_append (Utf8.isText_encode _)]
    rcases ofLine_cases line with hline | hline <;> rw [hline]
    · exact hsign
    · rfl
  induction lines with
  | nil => rfl
  | cons line lines ih =>
      rw [List.map_cons, ofLines, ih, hline, ofLines]
      rcases ofLine_cases line with hfirst | hfirst <;> rw [hfirst] <;>
        cases ofLines lines <;> rfl

end Ending

namespace Printer

section Printed

variable (config : Config) (source : Bytes)

mutual
/-- What the lines of a block end like. -/
def ending (previous : Option Kind) : Tree → Ending
  | .node label children =>
    match label.element with
    | .thematicBreak | .fencedCodeBlock _ => .shown
    | .blockquote => (rowEnding (fun _ => id) 0 none children).quoted
    | .list marker ordered start =>
        rowEnding (fun number => .behind (itemPrefix marker ordered number)) start none children
    | .listItem =>
        if children.isEmpty then .oneBlank else rowEnding (fun _ => id) 0 none children
    | .document | .custom _ _ => rowEnding (fun _ => id) 0 none children
    | _ => .ofLines (block config source previous (.node label children))

/-- What the lines of blocks end like that follow one another. A block that is set off brings an
empty line, even if nothing else. -/
def rowEnding (dress : Nat → Ending → Ending) (number : Nat) (previous : Option Kind) :
    List Tree → Ending
  | [] => .nothing
  | tree :: rest =>
      ((Ending.ofLines (separation previous tree.label)).andThen
        (dress number (ending previous tree))).andThen
        (rowEnding dress (number + 1) (some tree.kind) rest)
end

variable {config source}

/-- A thematic break shows. -/
theorem ofLine_rule (previous : Option Kind) (label : Label) :
    Ending.ofLine (rule config previous label) = .shown := by
  have hlength : 0 < config.effectiveBreakLength :=
    Nat.lt_of_lt_of_le (Nat.succ_pos 2) config.three_le_effectiveBreakLength
  have htrimmed : trimmedLine (rule config previous label) = rule config previous label := by
    rw [rule_eq_replicate]
    exact trimmedLine_append_marks (ruleMark_mem previous label) [] hlength
  refine if_neg ?_
  rw [htrimmed, rule_eq_replicate, List.replicate_eq_nil_iff]
  exact Nat.ne_of_gt hlength

/-- So does a fence. -/
theorem ofLine_fence (info : Option Value) (lines : List Value) :
    Ending.ofLine (fence source info lines) = .shown := by
  refine if_neg ?_
  rw [fence, Utf8.trimmedLine_encode, CodeFence.dropTrailing_fence]
  intro hnone
  have hempty : CodeFence.fence ((info.map (·.bytes source)).getD []) (lines.map (·.bytes source)) =
      [] := Utf8.encode_injective hnone
  have hlength := CodeFence.three_le_length_fence ((info.map (·.bytes source)).getD [])
    (lines.map (·.bytes source))
  rw [hempty] at hlength
  cases hlength

/-- The lines of an item end as its content does behind the marker and the indent. -/
theorem ofLines_item {marker : UInt8} (hmarker : marker < 0x80) (ordered : Bool) (number : Nat)
    (lines : List Bytes) : Ending.ofLines (item config marker ordered number lines) =
      (Ending.ofLines lines).behind (itemPrefix marker ordered number) := by
  have hspace : ∀ width, trimmedLine (List.replicate width 0x20) = [] := by
    intro width
    have htext : Utf8.encode (List.replicate width ' ') = List.replicate width 0x20 :=
      Utf8.encode_replicate (by decide) width
    rw [← htext, Utf8.trimmedLine_encode, ← List.nil_append (List.replicate width ' '),
      dropTrailing_append_of_forall fun c hc => by rw [List.eq_of_mem_replicate hc]; rfl]
    rfl
  have hprefix : IsText (Piece.marker marker ordered number).bytes :=
    Piece.isText_bytes (decide_eq_true hmarker)
  exact Ending.ofLines_hang hprefix (@Piece.isText_bytes (.space _) rfl) (hspace _) lines

/-- Block by block, the end is that of the lines that are printed. -/
theorem ofLines_rows :
    (∀ (tree : Tree) (previous : Option Kind), tree.isMarkdown →
      Ending.ofLines (block config source previous tree) = ending config source previous tree) ∧
    ∀ (trees : List Tree) (parent : Kind) (dress : Nat → List Bytes → List Bytes)
      (change : Nat → Ending → Ending) (number : Nat) (previous : Option Kind),
      Tree.areMarkdown parent trees →
      (∀ number lines, Ending.ofLines (dress number lines) =
        change number (Ending.ofLines lines)) →
      Ending.ofLines (row config source dress number previous trees) =
        rowEnding config source change number previous trees := by
  apply Tree.rows_induction
  · intro label children ih previous hmarkdown
    simp only [Tree.isMarkdown, Bool.and_eq_true] at hmarkdown
    obtain ⟨⟨-, hmarker⟩, hchildren⟩ := hmarkdown
    have hplain : Ending.ofLines (row config source plain 0 none children) =
        rowEnding config source (fun _ => id) 0 none children :=
      ih _ _ _ 0 none hchildren fun _ _ => rfl
    rw [ending]
    split
    case h_1 helement =>
      rw [block, helement]
      exact ofLine_rule previous label
    case h_2 info helement =>
      rw [block, helement]
      simp only [Ending.ofLines_append, Ending.ofLines_singleton, ofLine_fence]
      cases (Ending.ofLines _).andThen (Ending.ofLines _) <;> rfl
    case h_3 helement =>
      rw [block, helement, ← hplain]
      exact Ending.ofLines_quoted _
    case h_4 marker ordered start helement =>
      rw [helement] at hmarker
      rw [block, helement]
      exact ih _ _ _ start none hchildren (ofLines_item (of_decide_eq_true hmarker) ordered)
    case h_5 helement =>
      rw [block, helement, ← hplain]
      simp only
      split
      · decide +kernel
      · rfl
    case h_6 helement => rw [block, helement, ← hplain]
    case h_7 helement => rw [block, helement, ← hplain]
    case h_8 => rfl
  · intro parent dress change number previous _ _
    rfl
  · intro tree rest ihTree ihRest parent dress change number previous hmarkdown hdress
    simp only [Tree.areMarkdown, Bool.and_eq_true] at hmarkdown
    obtain ⟨⟨-, htree⟩, hrest⟩ := hmarkdown
    rw [row, rowEnding, Ending.ofLines_append, Ending.ofLines_append, hdress, ihTree previous htree,
      ihRest parent dress change _ _ hrest hdress]

/-- So it is for a whole tree. -/
theorem ofLines_print {tree : Tree} (hmarkdown : tree.isMarkdown) (hblock : tree.kind.isBlock)
    (previous : Option Kind) : Ending.ofLines (print config source previous tree) =
      rowEnding config source (fun _ => id) 0 previous [tree] := by
  rw [print, if_pos hblock, Ending.ofLines_append, ofLines_rows.1 tree previous hmarkdown]
  rfl

end Printed

end Printer

/-- A text is nothing, or it ends in exactly one newline, before which there is something. -/
def EndsOnce {α : Type} (newline : α) (text : List α) : Prop :=
  text = [] ∨ ∃ front last, last ≠ newline ∧ text = front ++ [last, newline]

/-- Finished lines end in a newline. -/
theorem exists_flatten_finished {lines : List Bytes} (hsome : lines ≠ []) :
    ∃ front, (lines.map finished).flatten = front ++ [newline] := by
  obtain ⟨front, last, rfl⟩ := (List.eq_nil_or_concat' lines).resolve_left hsome
  exact ⟨(front.map finished).flatten ++ trimmedLine last, by simp [finished]⟩

/-- Lines with their endings end in one newline unless the last of them is blank. -/
theorem endsOnce_flatten_finished_iff (lines : List Bytes) :
    EndsOnce newline (lines.map finished).flatten ↔ (Ending.ofLines lines).isBlank = false := by
  rcases List.eq_nil_or_concat' lines with rfl | ⟨front, last, rfl⟩
  · exact iff_of_true (.inl rfl) rfl
  have hends : ((front ++ [last]).map finished).flatten =
      (front.map finished).flatten ++ (trimmedLine last ++ [newline]) := by
    simp [finished]
  rw [Ending.ofLines_append, Ending.ofLines_singleton, Ending.isBlank_andThen_ofLine,
    decide_eq_false_iff_not, hends]
  constructor
  · rintro (hnone | ⟨before, byte, hbyte, htext⟩) hblank
    · simp at hnone
    · rw [hblank, List.nil_append] at htext
      have hfront : (front.map finished).flatten = before ++ [byte] :=
        List.append_cancel_right (htext.trans (List.append_cons before byte [newline]))
      have hsome : front ≠ [] := by
        rintro rfl
        simp at hfront
      obtain ⟨rest, hrest⟩ := exists_flatten_finished hsome
      rw [hrest] at hfront
      exact hbyte (by simpa using (List.append_inj_right' hfront rfl).symm)
  · intro hshown
    obtain ⟨rest, byte, hrest⟩ := (List.eq_nil_or_concat' (trimmedLine last)).resolve_left hshown
    refine .inr ⟨(front.map finished).flatten ++ rest, byte, ?_, by simp [hrest]⟩
    rintro rfl
    have hblank := Utf8.not_isBlankByte_of_trimmed (trimmedLine_trimmedLine last) newline
      (by simp [hrest])
    cases hblank

/-- A text ends in a newline if its bytes do. -/
theorem exists_append_of_encode {text : List Char} {front : Bytes}
    (hends : Utf8.encode text = front ++ [newline]) :
    ∃ first, front = Utf8.encode first ∧ text = first ++ ['\n'] := by
  have hwhole : IsText (front ++ newline :: []) := ⟨text, hends.symm⟩
  obtain ⟨first, rfl⟩ := hwhole.before_ascii Utf8.ascii_newline
  refine ⟨first, rfl, Utf8.encode_injective ?_⟩
  rw [hends, Utf8.encode_append]
  rfl

/-- The newlines at the end of a text are those at the end of its bytes. -/
theorem endsOnce_encode_iff (text : List Char) :
    EndsOnce newline (Utf8.encode text) ↔ EndsOnce '\n' text := by
  constructor
  · rintro (hnone | ⟨front, byte, hbyte, hends⟩)
    · exact .inl (Utf8.encode_injective hnone)
    · obtain ⟨first, hfirst, rfl⟩ :=
        exists_append_of_encode (hends.trans (List.append_cons front byte [newline]))
      rcases List.eq_nil_or_concat' first with rfl | ⟨rest, last, rfl⟩
      · exact absurd hfirst (List.append_ne_nil_of_right_ne_nil _ (List.cons_ne_nil _ _))
      · refine .inr ⟨rest, last, ?_, by simp⟩
        rintro rfl
        rw [Utf8.encode_append] at hfirst
        have hlast : [byte] = [newline] := List.append_inj_right' hfirst rfl
        exact hbyte (List.cons.inj hlast).1
  · rintro (rfl | ⟨front, last, hlast, rfl⟩)
    · exact .inl rfl
    · have hsome : Utf8.encode [last] ≠ [] := fun hnone =>
        List.cons_ne_nil _ _ (Utf8.encode_injective hnone)
      obtain ⟨bytes, byte, hbytes⟩ := (List.eq_nil_or_concat' _).resolve_left hsome
      refine .inr ⟨Utf8.encode front ++ bytes, byte, ?_, ?_⟩
      · rintro rfl
        have hmem : newline ∈ Utf8.encode [last] := by simp [hbytes]
        exact hlast (List.mem_singleton.mp (Utf8.newline_mem_encode_iff.mp hmem)).symm
      · have hparts : Utf8.encode (front ++ ([last] ++ ['\n'])) =
            Utf8.encode front ++ (bytes ++ [byte] ++ [newline]) := by
          rw [Utf8.encode_append, Utf8.encode_append, hbytes]
          rfl
        exact hparts.trans (by simp)

namespace Renderer

/-- Whatever the document, its text is nothing or ends in a newline. It ends in exactly one newline
unless the last line is blank, and in a document of Markdown the tree says whether it is: blank
lines of code, of HTML or of text are written as they are, and the empty line before a block that
is set off is left alone if nothing is written for the block or behind it. -/
theorem renderText_endsOnce_iff {config : Config} {source : Bytes} {document : Document}
    {output : String} (houtput : ((standard config).renderText source document).1 = .ok output) :
    (output = "" ∨ ∃ front, output.toList = front ++ ['\n']) ∧
    (∃ lines : List Bytes, Utf8.ofString output = (lines.map finished).flatten ∧
      (EndsOnce '\n' output.toList ↔ (Ending.ofLines lines).isBlank = false)) ∧
    ∀ tree : Tree, document.Holds tree Document.root → tree.isMarkdown → tree.kind.isBlock →
      tree.kind ≠ .listItem →
      (EndsOnce '\n' output.toList ↔
        (Printer.rowEnding config source (fun _ => id) 0
          ((document.node Document.root).previous.map document.kind) [tree]).isBlank = false) := by
  obtain ⟨-, hcontent⟩ := renderText_eq_ok_iff.mp houtput
  have hends : ∀ lines : List Bytes, Utf8.ofString output = (lines.map finished).flatten →
      (EndsOnce '\n' output.toList ↔ (Ending.ofLines lines).isBlank = false) := by
    intro lines hlines
    rw [← endsOnce_encode_iff, ← endsOnce_flatten_finished_iff, ← hlines]
    rfl
  obtain ⟨lines, hlines⟩ : ∃ lines : List Bytes, Utf8.ofString output =
      (lines.map finished).flatten := by
    obtain ⟨last, lines, hlast, hlines⟩ :=
      exists_lines_renderNode config false source document Document.root
    have hrender : (standard config).render .unlimited source document = (none, last) := hlast
    rw [hrender] at hcontent
    exact ⟨lines, hcontent.symm.trans (congrArg List.flatten hlines)⟩
  refine ⟨?_, ⟨lines, hlines, hends lines hlines⟩, ?_⟩
  · by_cases hnone : lines = []
    · rw [hnone] at hlines
      exact .inl (String.toList_eq_nil_iff.mp (Utf8.encode_injective hlines))
    · obtain ⟨front, hfront⟩ := exists_flatten_finished hnone
      obtain ⟨first, -, htext⟩ := exists_append_of_encode (hlines.trans hfront)
      exact .inr ⟨first, htext⟩
  · intro tree hholds hmarkdown hblock hroot
    obtain ⟨last, hrender, hlines⟩ :=
      render_block config source .unlimited rfl hholds hmarkdown hblock hroot
    rw [hrender] at hcontent
    rw [← Printer.ofLines_print hmarkdown hblock]
    exact hends _ (hcontent.symm.trans (congrArg List.flatten hlines))

/-- A paragraph, and a quote that is set off, with a list of one item in which there is nothing. -/
def quotedItem : Tree :=
  .node { element := .document } [
    .node { element := .paragraph } [.node { element := .plainText (.owned "a") } []],
    .node { element := .blockquote, blankBefore := true } [
      .node { element := .list 0x2D false 1 } [.node { element := .listItem } []]]]

/-- A document that holds the paragraph and the quote. -/
def quotedItemDocument : Document :=
  ⟨#[{ element := .document, firstChild := some 1, lastChild := some 3 },
    { element := .paragraph, parent := some 0, next := some 3, firstChild := some 2,
      lastChild := some 2 },
    { element := .plainText (.owned "a"), parent := some 1 },
    { element := .blockquote, parent := some 0, previous := some 1, firstChild := some 4,
      lastChild := some 4, blankBefore := true },
    { element := .list 0x2D false 1, parent := some 3, firstChild := some 5, lastChild := some 5 },
    { element := .listItem, parent := some 4 }]⟩

/-- The item has a line of its own, on which the sign of the quote and its marker are seen. -/
theorem renderText_endsOnce_iff_quotedItem :
    ((standard {}).renderText [] quotedItemDocument).1 = .ok "a\n\n> -\n" ∧
    quotedItemDocument.Holds quotedItem Document.root ∧ quotedItem.isMarkdown ∧
    quotedItem.kind.isBlock ∧ quotedItem.kind ≠ .listItem ∧
    EndsOnce '\n' "a\n\n> -\n".toList := by
  have houtput : ((standard {}).renderText [] quotedItemDocument).1 = .ok "a\n\n> -\n" := by
    decide +kernel
  have hholds : quotedItemDocument.Holds quotedItem Document.root :=
    ⟨by decide, rfl, [1, 3], ⟨rfl, rfl, rfl, rfl, rfl, rfl, rfl, rfl⟩,
      1, [3], rfl, ⟨by decide, rfl, [2], ⟨rfl, rfl, rfl, rfl, rfl⟩,
        2, [], rfl, ⟨by decide, rfl, [], ⟨rfl, rfl⟩, rfl⟩, rfl⟩,
      3, [], rfl, ⟨by decide, rfl, [4], ⟨rfl, rfl, rfl, rfl, rfl⟩,
        4, [], rfl, ⟨by decide, rfl, [5], ⟨rfl, rfl, rfl, rfl, rfl⟩,
          5, [], rfl, ⟨by decide, rfl, [], ⟨rfl, rfl⟩, rfl⟩, rfl⟩, rfl⟩, rfl⟩
  have hmarkdown : quotedItem.isMarkdown := by decide +kernel
  have hblock : quotedItem.kind.isBlock := by decide
  have hroot : quotedItem.kind ≠ .listItem := by decide
  obtain ⟨-, -, htree⟩ := renderText_endsOnce_iff houtput
  exact ⟨houtput, hholds, hmarkdown, hblock, hroot,
    (htree quotedItem hholds hmarkdown hblock hroot).mpr (by decide +kernel)⟩

/-- A paragraph, and a quote that is set off, in which there is nothing. -/
def emptyQuoteDocument : Document :=
  ⟨#[{ element := .document, firstChild := some 1, lastChild := some 3 },
    { element := .paragraph, parent := some 0, next := some 3, firstChild := some 2,
      lastChild := some 2 },
    { element := .plainText (.owned "a"), parent := some 1 },
    { element := .blockquote, parent := some 0, previous := some 1, blankBefore := true }]⟩

/-- The empty line before the quote is left alone at the end. -/
theorem not_forall_renderText_endsOnce :
    ¬ ∀ (config : Config) (source : Bytes) (document : Document) (output : String),
      ((standard config).renderText source document).1 = .ok output →
      EndsOnce '\n' output.toList := by
  intro hends
  have houtput : ((standard {}).renderText [] emptyQuoteDocument).1 = .ok "a\n\n" := by
    decide +kernel
  rcases hends {} [] emptyQuoteDocument _ houtput with hnone | ⟨front, last, hlast, htext⟩
  · cases hnone
  · have hrest : ['a'] ++ ['\n'] = front ++ [last] :=
      List.append_cancel_right (htext.trans (List.append_cons front last ['\n']))
    have hnewline : ['\n'] = [last] := List.append_inj_right' hrest rfl
    exact hlast (List.cons.inj hnewline).1.symm

end Renderer

end MarkdownFormat
