/-
# Contents that are still growing

Parts arrive one by one. What is known of the children of a node so far is a row of trees
and possibly a text behind them, which a line break may still mark and, right after a
text event, another text event may continue. Taking in the parts in order gives the same
children as looking at all of them together.
-/

import MarkdownFormat.Proofs.Event.Passage

namespace MarkdownFormat

/-- A row of trees that parts are added to. -/
structure OpenRow where
  trees : List Tree := []
  /-- The range of a text without a mark behind them, and whether a text event may
  continue it. -/
  text : Option (Segment × Bool) := none

namespace OpenRow

variable (source : Bytes) (run : OpenRow)

/-- All trees, with the text behind them. -/
def all : List Tree :=
  run.trees ++ (run.text.map fun text => textTree source text.1 {}).toList

/-- Whether a text event would continue a text. -/
def isGrowing : Bool :=
  run.text.any (·.2)

/-- The parts that stand for the text behind the trees. -/
def pending : List Part :=
  match run.text with
  | none => []
  | some (range, true) => [.text range]
  | some (range, false) => [.text range, .nothing]

/-- Lets no text go on. -/
def settle : OpenRow :=
  { run with text := run.text.map fun text => (text.1, false) }

/-- Adds a part. -/
def place : Part → OpenRow
  | .text range =>
    match run.text with
    | some (last, true) => { run with text := some (⟨last.start, range.stop⟩, true) }
    | _ => ⟨run.all source, some (range, true)⟩
  | .lineBreak breaks =>
    match run.text with
    | some (last, _) => ⟨run.trees ++ [textTree source last breaks], none⟩
    | none => ⟨run.trees ++ [breakTree breaks], none⟩
  | .inline tree | .block tree => ⟨run.all source ++ [tree], none⟩
  | .nothing => run.settle

end OpenRow

/-- Inline content makes one text block. -/
theorem textBlocks_of_ne_nil {trees : List Tree} (htrees : trees ≠ []) :
    textBlocks trees = [.node { element := .textBlock } trees] := by
  simp [textBlocks, htrees]

section ChildRow

variable {source : Bytes}

/-- Where nothing arrives, the rest decides. -/
theorem childRow_nothing (parts : List Part) :
    childRow source (.nothing :: parts) = childRow source parts := rfl

/-- A line break behind no text is a text of its own. -/
theorem childRow_lineBreak (breaks : LineBreaks) (parts : List Part) :
    childRow source (.lineBreak breaks :: parts) = breakTree breaks :: childRow source parts := rfl

/-- An inline node is a child. -/
theorem childRow_inline (tree : Tree) (parts : List Part) :
    childRow source (.inline tree :: parts) = tree :: childRow source parts := rfl

/-- So is a block. -/
theorem childRow_block (tree : Tree) (parts : List Part) :
    childRow source (.block tree :: parts) = tree :: childRow source parts := rfl

/-- Texts that start with a text still do when they are joined. -/
theorem joinTexts_text (range : Segment) (parts : List Part) :
    ∃ stop others, joinTexts (.text range :: parts) = .text ⟨range.start, stop⟩ :: others := by
  rw [joinTexts]
  split
  · exact ⟨_, _, rfl⟩
  · exact ⟨range.stop, _, rfl⟩

/-- Texts that follow one another are one text. -/
theorem childRow_text_text (first second : Segment) (parts : List Part) :
    childRow source (.text first :: .text second :: parts) =
      childRow source (.text ⟨first.start, second.stop⟩ :: parts) := by
  have hjoin : joinTexts (.text first :: .text second :: parts) =
      joinTexts (.text ⟨first.start, second.stop⟩ :: parts) := by
    rw [joinTexts, joinTexts, joinTexts]
    cases joinTexts parts with
    | nil => rfl
    | cons part others => cases part <;> rfl
  rw [childRow, hjoin, childRow]

/-- A line break behind a text marks it. -/
theorem childRow_text_lineBreak (range : Segment) (breaks : LineBreaks) (parts : List Part) :
    childRow source (.text range :: .lineBreak breaks :: parts) =
      textTree source range breaks :: childRow source parts := rfl

/-- A text ends before an inline node. -/
theorem childRow_text_inline (range : Segment) (tree : Tree) (parts : List Part) :
    childRow source (.text range :: .inline tree :: parts) =
      textTree source range {} :: tree :: childRow source parts := rfl

/-- So it does before a block. -/
theorem childRow_text_block (range : Segment) (tree : Tree) (parts : List Part) :
    childRow source (.text range :: .block tree :: parts) =
      textTree source range {} :: tree :: childRow source parts := rfl

/-- Where something without effect comes between, a text does not go on. -/
theorem childRow_text_nothing_text (first second : Segment) (parts : List Part) :
    childRow source (.text first :: .nothing :: .text second :: parts) =
      textTree source first {} :: childRow source (.text second :: parts) := by
  obtain ⟨stop, others, hjoin⟩ := joinTexts_text second parts
  have hnothing : joinTexts (.text first :: .nothing :: .text second :: parts) =
      .text first :: .nothing :: joinTexts (.text second :: parts) := by
    rw [joinTexts]
    rfl
  rw [childRow, hnothing, childRow, hjoin]
  rfl

/-- Without a text after it, something without effect can be left out. -/
theorem childRow_text_nothing {range : Segment} {part : Part} (hpart : ∀ next, part ≠ .text next)
    (parts : List Part) :
    childRow source (.text range :: .nothing :: part :: parts) =
      childRow source (.text range :: part :: parts) := by
  cases part with
  | text next => exact absurd rfl (hpart next)
  | _ => rfl

end ChildRow

namespace OpenRow

variable {source : Bytes}

/-- A part is added to a run in the way in which it shows among all parts. -/
theorem childRow_place (run : OpenRow) (part : Part) (parts : List Part) :
    run.trees ++ childRow source (run.pending ++ part :: parts) =
      (run.place source part).trees ++
        childRow source ((run.place source part).pending ++ parts) := by
  obtain ⟨trees, text⟩ := run
  rcases text with _ | ⟨range, _ | _⟩
  · cases part with
    | text range => simp [place, pending, all]
    | lineBreak breaks => simp [place, pending, childRow_lineBreak]
    | inline tree => simp [place, pending, all, childRow_inline]
    | block tree => simp [place, pending, all, childRow_block]
    | nothing => simp [place, settle, pending, childRow_nothing]
  · cases part with
    | text next => simp [place, pending, all, childRow_text_nothing_text]
    | lineBreak breaks =>
        simp [place, pending, childRow_text_nothing, childRow_text_lineBreak]
    | inline tree => simp [place, pending, all, childRow_text_nothing, childRow_text_inline]
    | block tree => simp [place, pending, all, childRow_text_nothing, childRow_text_block]
    | nothing => simp [place, settle, pending, childRow_text_nothing]
  · cases part with
    | text next => simp [place, pending, childRow_text_text]
    | lineBreak breaks => simp [place, pending, childRow_text_lineBreak]
    | inline tree => simp [place, pending, all, childRow_text_inline]
    | block tree => simp [place, pending, all, childRow_text_block]
    | nothing => simp [place, settle, pending]

/-- What is there is the trees and what the open text comes to. -/
theorem all_eq (run : OpenRow) :
    run.all source = run.trees ++ childRow source run.pending := by
  obtain ⟨trees, text⟩ := run
  rcases text with _ | ⟨range, _ | _⟩ <;> rfl

@[simp]
theorem all_none (trees : List Tree) : (⟨trees, none⟩ : OpenRow).all source = trees :=
  List.append_nil trees

@[simp]
theorem all_some (trees : List Tree) (range : Segment) (growing : Bool) :
    (⟨trees, some (range, growing)⟩ : OpenRow).all source =
      trees ++ [textTree source range {}] := rfl

@[simp]
theorem all_settle (run : OpenRow) : run.settle.all source = run.all source := by
  simp [all, settle, Function.comp_def]

@[simp]
theorem isGrowing_settle (run : OpenRow) : run.settle.isGrowing = false := by
  obtain ⟨trees, text⟩ := run
  cases text <;> rfl

/-- Only a text could go on. -/
theorem place_settle (run : OpenRow) {part : Part} (hpart : part.isNoText) :
    run.settle.place source part = run.place source part := by
  cases part with
  | text range => cases hpart
  | lineBreak breaks =>
      obtain ⟨trees, text⟩ := run
      cases text <;> rfl
  | inline tree | block tree => rw [place, place, all_settle]
  | nothing => simp [place, settle, Function.comp_def]

/-- Adding parts one by one gives the row of children that they make together. -/
theorem all_foldl_place (run : OpenRow) (parts : List Part) :
    (parts.foldl (place source) run).all source =
      run.trees ++ childRow source (run.pending ++ parts) := by
  induction parts generalizing run with
  | nil => rw [List.append_nil, List.foldl_nil, all_eq]
  | cons part parts ih => rw [List.foldl_cons, ih, childRow_place]

end OpenRow

/-- Whether a tree is a text without the mark of a line break. -/
def Tree.isUnmarked (tree : Tree) : Bool :=
  match tree.label.element with
  | .text _ breaks => breaks = {}
  | _ => false

/-- Whether a part comes without an unmarked text of its own, and with the mark that it
stands for. -/
def Part.isMarked : Part → Bool
  | .inline tree | .block tree => !tree.isUnmarked
  | .lineBreak breaks => breaks ≠ {}
  | .text _ | .nothing => true

namespace OpenRow

variable {source : Bytes} {run : OpenRow}

/-- A text that a line break could still mark is known as the text behind the trees. -/
def Tidy (run : OpenRow) : Prop :=
  run.text = none → ∀ tree ∈ run.trees.getLast?, tree.isUnmarked = false

/-- One more part leaves the row tidy. -/
theorem Tidy.place (htidy : run.Tidy) {part : Part} (hpart : part.isMarked) :
    (run.place source part).Tidy := by
  intro hnone tree htree
  cases part with
  | text range =>
      rw [OpenRow.place] at hnone
      split at hnone <;> cases hnone
  | lineBreak breaks =>
      have hbreaks : breaks ≠ {} := of_decide_eq_true hpart
      rw [OpenRow.place] at htree
      split at htree
      · simp only [List.getLast?_concat, Option.mem_some_iff] at htree
        simp [← htree, Tree.isUnmarked, textTree, Tree.label, hbreaks]
      · simp only [List.getLast?_concat, Option.mem_some_iff] at htree
        simp [← htree, Tree.isUnmarked, breakTree, Tree.label, hbreaks]
  | inline added | block added =>
      simp only [OpenRow.place, List.getLast?_concat, Option.mem_some_iff] at htree
      simpa [htree, Part.isMarked] using hpart
  | nothing => exact htidy (Option.map_eq_none_iff.mp hnone) tree htree

end OpenRow

/-- What is known of the children of an open node. In an item, the run is what the next
text block holds. -/
structure Contents where
  trees : List Tree := []
  run : OpenRow := {}

namespace Contents

variable (source : Bytes) (element : Element) (contents : Contents)

/-- Adds a part to the contents of an element. -/
def place (part : Part) : Contents :=
  if element = .listItem then
    match part with
    | .block tree =>
        ⟨contents.trees ++ (textBlocks (contents.run.all source) ++ [tree]), {}⟩
    | part => { contents with run := contents.run.place source part }
  else if element.kind = .autoLink && !part.isNoText then contents
  else { contents with run := contents.run.place source part }

/-- Lets no text go on. -/
def settle : Contents :=
  { contents with run := contents.run.settle }

/-- The children of an element, if no more parts arrive. -/
def all : List Tree :=
  contents.trees ++
    if element = .listItem then textBlocks (contents.run.all source)
    else contents.run.all source

variable {source} {element} {contents}

/-- Only an item has blocks before its run. -/
structure Tidy (contents : Contents) (element : Element) : Prop where
  trees_eq : element ≠ .listItem → contents.trees = []
  run : contents.run.Tidy

/-- One more part leaves the contents tidy. -/
theorem Tidy.place (htidy : contents.Tidy element) {part : Part} (hpart : part.isMarked) :
    (contents.place source element part).Tidy element := by
  have hrun : ({ contents with run := contents.run.place source part } : Contents).Tidy element :=
    ⟨htidy.trees_eq, htidy.run.place hpart⟩
  unfold Contents.place
  by_cases hitem : element = .listItem
  · rw [if_pos hitem]
    split
    · exact ⟨fun hother => absurd hitem hother, fun _ _ htree => nomatch htree⟩
    · exact hrun
  · rw [if_neg hitem]
    split
    · exact htidy
    · exact hrun

variable (contents)

/-- Where nothing arrives, the text before ends. -/
theorem place_nothing : contents.place source element .nothing = contents.settle := by
  simp [place, settle, Part.isNoText, OpenRow.place]

/-- Only a text could go on. -/
theorem place_settle {part : Part} (hpart : part.isNoText) :
    contents.settle.place source element part = contents.place source element part := by
  have hrun : contents.run.settle.place source part = contents.run.place source part :=
    contents.run.place_settle hpart
  by_cases hitem : element = .listItem
  · cases part with
    | text range => cases hpart
    | _ => simp [place, settle, hitem, hrun]
  · simp [place, settle, hitem, hrun, hpart]

/-- The parts that have arrived since the last block become a text block together with
those before the next block. -/
theorem all_foldl_place_listItem (trees : List Tree) (before parts : List Part) :
    (parts.foldl (place source .listItem)
        ⟨trees, before.foldl (OpenRow.place source) {}⟩).all source .listItem =
      trees ++ (textBlocks (childRow source (before ++ (splitRuns source parts).1)) ++
        (splitRuns source parts).2) := by
  induction parts generalizing trees before with
  | nil => simp [all, splitRuns, OpenRow.all_foldl_place, OpenRow.pending]
  | cons part parts ih =>
      have hrun : ∀ part, (∀ tree, part ≠ .block tree) →
          place source .listItem ⟨trees, before.foldl (OpenRow.place source) {}⟩ part =
            ⟨trees, (before ++ [part]).foldl (OpenRow.place source) {}⟩ := by
        intro part hpart
        cases part with
        | block tree => exact absurd rfl (hpart tree)
        | _ => simp [place]
      rw [List.foldl_cons]
      cases part with
      | block tree =>
          have hblock := ih (trees ++ (textBlocks (childRow source before) ++ [tree])) []
          simpa [place, splitRuns, OpenRow.all_foldl_place, OpenRow.pending] using hblock
      | _ =>
          rw [hrun _ (by simp), ih]
          simp [splitRuns]

/-- Without a run of its own, contents grow as a run does. -/
theorem foldl_place_of_ne (hitem : element ≠ .listItem) (hautoLink : element.kind ≠ .autoLink)
    (parts : List Part) :
    parts.foldl (place source element) contents =
      { contents with run := parts.foldl (OpenRow.place source) contents.run } := by
  induction parts generalizing contents with
  | nil => rfl
  | cons part parts ih => simp [place, hitem, hautoLink, ih]

/-- The texts of an autolink are left out. -/
theorem foldl_place_autoLink (hitem : element ≠ .listItem) (hautoLink : element.kind = .autoLink)
    (parts : List Part) :
    parts.foldl (place source element) contents =
      { contents with
        run := (parts.filter Part.isNoText).foldl (OpenRow.place source) contents.run } := by
  induction parts generalizing contents with
  | nil => rfl
  | cons part parts ih =>
      cases hpart : part.isNoText <;> simp [place, hitem, hautoLink, hpart, ih]

/-- Taking in parts one by one gives the children that they make together. -/
theorem all_foldl_place (parts : List Part) :
    (parts.foldl (place source element) {}).all source element =
      childrenOf source element parts := by
  by_cases hitem : element = .listItem
  · subst hitem
    exact all_foldl_place_listItem [] [] parts
  · by_cases hautoLink : element.kind = .autoLink
    · rw [foldl_place_autoLink _ hitem hautoLink]
      simp [all, childrenOf, hitem, hautoLink, OpenRow.all_foldl_place, OpenRow.pending]
    · rw [foldl_place_of_ne _ hitem hautoLink]
      simp [all, childrenOf, hitem, hautoLink, OpenRow.all_foldl_place, OpenRow.pending]

end Contents

end MarkdownFormat
