/-
# Rendering prints blocks

Walking a block of a document emits the lines that the printer gives for the tree below
the block, by induction over that tree. What a container puts around the lines of its
children is taken from the laws of leads; the number of an item is found in the list
that is open, which counts along with the printer.
-/

import MarkdownFormat.Proofs.Render.InlinePrinting

namespace MarkdownFormat

open Renderer

variable {scene : Scene} {config : Config}

/-- The kind of the node before a node. -/
def Scene.previousKind (scene : Scene) (id : NodeId) : Option Kind :=
  (scene.node id).previous.map scene.document.kind

/-- Walking the node emits the lines. -/
def Prints (config : Config) (scene : Scene) (depth : Nat) (id : NodeId)
    (before after : RenderState) (lines : List Bytes) : Prop :=
  ∃ script, Checked (scene.document.walkTo ((standard config).visit scene) depth id)
    before script after ∧ Emits script lines

/-- Walking the nodes one after the other emits the lines. -/
def PrintsEach (config : Config) (scene : Scene) (depth : Nat) (ids : List NodeId)
    (before after : RenderState) (lines : List Bytes) : Prop :=
  ∃ script, Checked (Document.walkEach
    (scene.document.walkTo ((standard config).visit scene) depth) ids)
    before script after ∧ Emits script lines

section Block

variable {id : NodeId} {label : Label} {children : List Tree} {depth : Nat}
  {before inside inner after : RenderState}

/-- The separation of a block is an empty line or nothing, as the printer has it. -/
theorem emits_separation (hlabel : (scene.node id).label = label) :
    Emits (separation scene id) (Printer.separation (scene.previousKind id) label) := by
  have hcondition : ((scene.previousKind id).isSome && label.blankBefore) =
      ((scene.node id).previous.isSome && (scene.node id).blankBefore) := by
    rw [← hlabel, Scene.previousKind, Option.isSome_map]
    rfl
  rw [separation, Printer.separation, hcondition]
  split
  · exact .endLine
  · exact .nil

/-- Content lines are emitted as they are printed. -/
theorem emits_contentScript (source : Bytes) (lines : List Value) :
    Emits (contentScript source lines) (Printer.contentLines source lines) := by
  induction lines with
  | nil => exact .nil
  | cons line lines ih => exact (Feeds.write _).flushLine.append ih

/-- A block is set off from the block before it, and ends its last line. -/
theorem prints_block {opening content closing : List WriterCall} {lines : List Bytes}
    (hlabel : (scene.node id).label = label)
    (henter : Performs ((standard config).dispatch scene id .enter) before
      (separation scene id ++ opening) .proceed inside)
    (hcontent : Checked (Document.walkEach
      (scene.document.walkTo ((standard config).visit scene) depth)
      (scene.document.children id)) inside content inner)
    (hexit : Performs ((standard config).dispatch scene id .exit) inner
      (closing ++ [.flushLine]) .proceed after)
    (hemits : Emits (opening ++ (content ++ (closing ++ [.flushLine]))) lines) :
    Prints config scene (depth + 1) id before after
      (Printer.separation (scene.previousKind id) label ++ lines) := by
  refine ⟨_, checked_walkTo henter hcontent hexit, ?_⟩
  rw [List.append_assoc]
  exact (emits_separation hlabel).append hemits

/-- Entering a block writes its separation and what its function writes. -/
theorem performs_enter {render : RenderFn} {opening : List WriterCall}
    (hholds : scene.document.Holds (.node label children) id)
    (hrender : builtIn label.element.kind = some (asBlock render))
    (henter : Performs (render scene id .enter) before opening .proceed inside) :
    Performs ((standard config).dispatch scene id .enter) before
      (separation scene id ++ opening) .proceed inside := by
  have helement : (scene.node id).element = label.element := hholds.element_eq
  rw [dispatch_eq (by rw [helement]; exact hrender)]
  exact performs_asBlock_enter henter

/-- Leaving a block ends its last line. -/
theorem performs_exit {render : RenderFn} {closing : List WriterCall}
    (hholds : scene.document.Holds (.node label children) id)
    (hrender : builtIn label.element.kind = some (asBlock render))
    (hexit : Performs (render scene id .exit) inner closing .proceed after) :
    Performs ((standard config).dispatch scene id .exit) inner
      (closing ++ [.flushLine]) .proceed after := by
  have helement : (scene.node id).element = label.element := hholds.element_eq
  rw [dispatch_eq (by rw [helement]; exact hrender)]
  exact performs_asBlock_exit hexit

/-- A block without children has nothing between its visits. -/
theorem walk_nothing (hholds : scene.document.Holds (.node label []) id) :
    Checked (Document.walkEach
      (scene.document.walkTo ((standard config).visit scene) depth)
      (scene.document.children id)) before [] before := by
  have hchildren : scene.document.children id = [] := hholds.children.2
  rw [hchildren]
  exact .pure

/-- The inline children of a block feed their content. -/
theorem walk_content (hholds : scene.document.Holds (.node label children) id)
    (hmarkdown : Tree.areMarkdown label.element.kind children)
    (hinline : ∀ child, label.element.kind.mayHold child → child.isBlock = false)
    (hdepth : Tree.heightOfRow children ≤ depth) (hspan : before.codeSpan = none) :
    ∃ script, Checked (Document.walkEach
        (scene.document.walkTo ((standard config).visit scene) depth)
        (scene.document.children id)) before script before ∧
      Feeds script (Printer.content scene.source children) := by
  obtain ⟨script, hscript, hfeeds⟩ := walk_inline.2 children _ depth before _
    hholds.children.2 hmarkdown hinline hdepth
  rw [hspan] at hscript hfeeds
  rw [(Printer.inline_closed _).2, ← hspan] at hscript
  exact ⟨script, hscript, hfeeds⟩

/-- A paragraph prints its inline content. -/
theorem prints_paragraph (hholds : scene.document.Holds (.node label children) id)
    (hrender : builtIn label.element.kind = some Render.separator)
    (hmarkdown : Tree.areMarkdown label.element.kind children)
    (hinline : ∀ child, label.element.kind.mayHold child → child.isBlock = false)
    (hdepth : Tree.heightOfRow children ≤ depth) (hspan : before.codeSpan = none) :
    Prints config scene (depth + 1) id before before
      (Printer.separation (scene.previousKind id) label ++
        linesOf (Printer.content scene.source children)) := by
  have helement : (scene.node id).element = label.element := hholds.element_eq
  have hdispatch := fun phase => @dispatch_eq scene config id _
    (by rw [helement]; exact hrender) phase
  obtain ⟨script, hscript, hfeeds⟩ :=
    @walk_content _ config _ _ _ _ _ hholds hmarkdown hinline hdepth hspan
  have hemits : Emits ([] ++ (script ++ ([] ++ [.flushLine])))
      (linesOf (Printer.content scene.source children)) := hfeeds.flushLine
  refine prints_block hholds.label_eq ?_ hscript ?_ hemits
  · rw [hdispatch, List.append_nil]
    exact performs_separator_enter
  · rw [hdispatch]
    exact performs_separator_exit

/-- Whether a node stands below text can be told from its label and the kind of the node
before it. -/
theorem followsText_eq (hlabel : (scene.node id).label = label) :
    scene.document.followsText id = Printer.followsText (scene.previousKind id) label := by
  have hblank : (scene.document.node id).blankBefore = label.blankBefore :=
    congrArg Label.blankBefore hlabel
  rw [Document.followsText, Printer.followsText, Scene.previousKind, Scene.node, hblank]
  cases (scene.document.node id).previous <;> simp

/-- A heading is underlined where the printer underlines it. -/
theorem isUnderlined_eq (hholds : scene.document.Holds (.node label children) id)
    (level : Nat) :
    Heading.isUnderlined scene id level =
      Printer.isUnderlined scene.config (scene.previousKind id) label level children := by
  have hlabel : (scene.node id).label = label := hholds.label_eq
  have hlines : (scene.node id).lines = label.lines := congrArg Label.lines hlabel
  rw [Heading.isUnderlined, Printer.isUnderlined, hholds.hasChildren, Bool.not_not,
    followsText_eq hlabel, hlines]

/-- The underline is the one that is printed. -/
theorem underline_eq (hlabel : (scene.node id).label = label) (level : Nat) :
    Utf8.encode (Heading.underline scene id level) =
      Printer.underline scene.config scene.source label level := by
  have hlines : (scene.node id).lines = label.lines := congrArg Label.lines hlabel
  rw [Heading.underline, Printer.underline, Heading.fullWidth, hlines, List.foldl_map]

/-- The content of a heading is fed between its marks. -/
theorem feeds_heading (hholds : scene.document.Holds (.node label children) id)
    (level : Nat) {script : List WriterCall}
    (hscript : Feeds script (Printer.content scene.source children)) :
    Feeds (Heading.script scene id level .enter ++
        (script ++ Heading.script scene id level .exit))
      (Printer.heading scene.config scene.source (scene.previousKind id) label level
        children) := by
  have hlabel : (scene.node id).label = label := hholds.label_eq
  rw [Heading.script, Heading.script, Printer.heading, isUnderlined_eq hholds]
  split
  · rw [← underline_eq hlabel]
    exact hscript.append (Feeds.endLine.append (.write _))
  · have hspace : Feeds (if scene.document.hasChildren id then [.write (Utf8.encode [' '])]
        else []) (if children.isEmpty then [] else Utf8.encode [' ']) := by
      rw [hholds.hasChildren]
      cases children with
      | nil => exact .nil
      | cons => exact .write _
    have hsurround : Feeds (if scene.config.headingStyle = .atxSurround then
          [.write (Utf8.encode (' ' :: Heading.marks level))] else [])
        (if scene.config.headingStyle = .atxSurround then
          Utf8.encode (' ' :: List.replicate level '#') else []) := by
      split
      · exact .write _
      · exact .nil
    exact ((Feeds.write (Utf8.encode (Heading.marks level))).append hspace).append
      (hscript.append hsurround)

/-- So a heading is printed. -/
theorem prints_heading {level : Nat} (hholds : scene.document.Holds (.node label children) id)
    (helement : label.element = .heading level)
    (hmarkdown : Tree.areMarkdown label.element.kind children)
    (hdepth : Tree.heightOfRow children ≤ depth) (hspan : before.codeSpan = none) :
    Prints config scene (depth + 1) id before before
      (Printer.separation (scene.previousKind id) label ++
        linesOf (Printer.heading scene.config scene.source (scene.previousKind id) label level
          children)) := by
  have hnode : (scene.node id).element = .heading level := hholds.element_eq.trans helement
  have hrender : builtIn label.element.kind = some (asBlock Render.heading) := by
    rw [helement]
    rfl
  obtain ⟨script, hscript, hfeeds⟩ := @walk_content _ config _ _ _ _ _ hholds hmarkdown
    (by rw [helement]; simp [Element.kind, Kind.mayHold]) hdepth hspan
  refine prints_block hholds.label_eq (performs_enter hholds hrender (performs_heading hnode))
    hscript (performs_exit hholds hrender (performs_heading hnode)) ?_
  rw [← List.append_assoc script, ← List.append_assoc]
  exact (feeds_heading hholds level hfeeds).flushLine

/-- A thematic break has three characters at least. -/
theorem Config.three_le_effectiveBreakLength (config : Config) :
    3 ≤ config.effectiveBreakLength :=
  Nat.le_max_right _ _

/-- A rule is one line. -/
theorem linesOf_breakStyle (style : BreakStyle) {count : Nat} (hcount : 0 < count) :
    linesOf (Utf8.encode (List.replicate count style.char)) =
      [Utf8.encode (List.replicate count style.char)] := by
  cases style <;> rw [Utf8.encode_replicate (by decide)] <;>
    exact linesOf_replicate (by decide) hcount

/-- A thematic break prints its rule. -/
theorem prints_thematicBreak (hholds : scene.document.Holds (.node label []) id)
    (helement : label.element = .thematicBreak) :
    Prints config scene (depth + 1) id before before
      (Printer.separation (scene.previousKind id) label ++
        [Printer.rule scene.config (scene.previousKind id) label]) := by
  have hrender : builtIn label.element.kind = some (asBlock Render.thematicBreak) := by
    rw [helement]
    rfl
  have hlabel : (scene.node id).label = label := hholds.label_eq
  have hrule : Utf8.encode (thematicRule scene id) =
      Printer.rule scene.config (scene.previousKind id) label := by
    rw [thematicRule, Printer.rule, followsText_eq hlabel]
  have hline : linesOf (Printer.rule scene.config (scene.previousKind id) label) =
      [Printer.rule scene.config (scene.previousKind id) label] :=
    linesOf_breakStyle _
      (Nat.lt_of_lt_of_le (Nat.succ_pos 2) scene.config.three_le_effectiveBreakLength)
  refine prints_block hholds.label_eq
    (performs_enter hholds hrender performs_thematicBreak_enter) (walk_nothing hholds)
    (performs_exit hholds hrender performs_thematicBreak_exit) ?_
  rw [← hline, ← hrule]
  exact (Feeds.write _).flushLine

/-- An indented code block prints its content behind the indent. -/
theorem prints_codeBlock (hholds : scene.document.Holds (.node label []) id)
    (helement : label.element = .codeBlock) :
    Prints config scene (depth + 1) id before before
      (Printer.separation (scene.previousKind id) label ++
        (Printer.contentLines scene.source label.lines).map
          (Utf8.ofString scene.config.indentStyle.unit ++ ·)) := by
  have hrender : builtIn label.element.kind = some (asBlock Render.codeBlock) := by
    rw [helement]
    rfl
  have hlines : (scene.node id).lines = label.lines := congrArg Label.lines hholds.label_eq
  refine prints_block hholds.label_eq
    (performs_enter hholds hrender performs_codeBlock_enter) (walk_nothing hholds)
    (performs_exit hholds hrender performs_codeBlock_exit) ?_
  rw [hlines]
  have hemits := (emits_contentScript scene.source label.lines).quoted
    (Utf8.ofString scene.config.indentStyle.unit)
  simpa using hemits.flushLine

/-- A fence is one line. -/
theorem linesOf_fence (info : Option Value) (lines : List Value) :
    linesOf (Printer.fence scene.source info lines) =
      [Printer.fence scene.source info lines] := by
  rw [Printer.fence, CodeFence.fence, CodeFence.char]
  split <;> rw [Utf8.encode_replicate (by decide)] <;>
    exact linesOf_replicate (by decide) (Nat.lt_of_lt_of_le (Nat.succ_pos 2) (Nat.le_max_left _ _))

/-- A fenced code block prints its content between fences. -/
theorem prints_fencedCodeBlock {info : Option Value}
    (hholds : scene.document.Holds (.node label []) id)
    (helement : label.element = .fencedCodeBlock info) :
    Prints config scene (depth + 1) id before before
      (Printer.separation (scene.previousKind id) label ++
        (linesOf (Printer.fence scene.source info label.lines ++
            (info.map (·.bytes scene.source)).getD []) ++
          Printer.contentLines scene.source label.lines ++
          [Printer.fence scene.source info label.lines])) := by
  have hnode : (scene.node id).element = .fencedCodeBlock info :=
    hholds.element_eq.trans helement
  have hrender : builtIn label.element.kind = some (asBlock Render.fencedCodeBlock) := by
    rw [helement]
    rfl
  have hlines : (scene.node id).lines = label.lines := congrArg Label.lines hholds.label_eq
  have hfence : Utf8.encode (fenceOf scene id info) =
      Printer.fence scene.source info label.lines := by
    rw [fenceOf, hlines]
    rfl
  refine prints_block hholds.label_eq
    (performs_enter hholds hrender (performs_fencedCodeBlock_enter hnode)) (walk_nothing hholds)
    (performs_exit hholds hrender (performs_fencedCodeBlock_exit hnode)) ?_
  rw [hlines, hfence, ← linesOf_fence]
  have hopening := ((Feeds.write (Printer.fence scene.source info label.lines)).append
    (.write ((info.map (·.bytes scene.source)).getD []))).flushLine
  have hcontent := emits_contentScript scene.source label.lines
  have hclosing := (Feeds.write (Printer.fence scene.source info label.lines)).flushLine
  simpa using (hopening.append hcontent).append hclosing

/-- An HTML block prints its content and the line that closes it. -/
theorem prints_htmlBlock {closure : Option Value}
    (hholds : scene.document.Holds (.node label []) id)
    (helement : label.element = .htmlBlock closure) :
    Prints config scene (depth + 1) id before before
      (Printer.separation (scene.previousKind id) label ++
        Printer.contentLines scene.source (label.lines ++ closure.toList)) := by
  have hnode : (scene.node id).element = .htmlBlock closure :=
    hholds.element_eq.trans helement
  have hrender : builtIn label.element.kind = some (asBlock Render.htmlBlock) := by
    rw [helement]
    rfl
  have hlines : (scene.node id).lines = label.lines := congrArg Label.lines hholds.label_eq
  refine prints_block hholds.label_eq
    (performs_enter hholds hrender performs_htmlBlock_enter) (walk_nothing hholds)
    (performs_exit hholds hrender (performs_htmlBlock_exit hnode)) ?_
  rw [hlines, Printer.contentLines, List.flatMap_append]
  exact (emits_contentScript _ _).append (emits_contentScript _ _).flushLine

variable {lines : List Bytes}

/-- The document itself prints what is in it. -/
theorem prints_document (hholds : scene.document.Holds (.node label children) id)
    (hrender : builtIn label.element.kind = some Render.separator)
    (hcontent : PrintsEach config scene depth (scene.document.children id) before before lines) :
    Prints config scene (depth + 1) id before before
      (Printer.separation (scene.previousKind id) label ++ lines) := by
  have helement : (scene.node id).element = label.element := hholds.element_eq
  have hdispatch := fun phase => @dispatch_eq scene config id _
    (by rw [helement]; exact hrender) phase
  obtain ⟨script, hscript, hlines⟩ := hcontent
  have hemits : Emits ([] ++ (script ++ ([] ++ [.flushLine]))) lines := hlines.flushLine
  refine prints_block hholds.label_eq ?_ hscript ?_ hemits
  · rw [hdispatch, List.append_nil]
    exact performs_separator_enter
  · rw [hdispatch]
    exact performs_separator_exit

/-- So does a block of a kind without a function of its own. -/
theorem prints_unsupported (hholds : scene.document.Holds (.node label children) id)
    (hrender : builtIn label.element.kind = some (asBlock Render.transparent))
    (hcontent : PrintsEach config scene depth (scene.document.children id) before before lines) :
    Prints config scene (depth + 1) id before before
      (Printer.separation (scene.previousKind id) label ++ lines) := by
  obtain ⟨script, hscript, hlines⟩ := hcontent
  exact prints_block hholds.label_eq (performs_enter hholds hrender performs_transparent)
    hscript (performs_exit hholds hrender performs_transparent) hlines.flushLine

/-- A quote prints what is in it behind its mark. -/
theorem prints_blockquote (hholds : scene.document.Holds (.node label children) id)
    (helement : label.element = .blockquote)
    (hcontent : PrintsEach config scene depth (scene.document.children id) before before lines) :
    Prints config scene (depth + 1) id before before
      (Printer.separation (scene.previousKind id) label ++
        lines.map (Utf8.encode ['>', ' '] ++ ·)) := by
  have hrender : builtIn label.element.kind = some (asBlock Render.blockquote) := by
    rw [helement]
    rfl
  obtain ⟨script, hscript, hlines⟩ := hcontent
  refine prints_block hholds.label_eq (performs_enter hholds hrender performs_blockquote_enter)
    hscript (performs_exit hholds hrender performs_blockquote_exit) ?_
  simpa using (hlines.quoted (Utf8.encode ['>', ' '])).flushLine

/-- The items of a list find it open; what they count in it is forgotten behind it. -/
theorem prints_list {marker : UInt8} {ordered : Bool} {start : Nat} {frame : ListFrame}
    (hholds : scene.document.Holds (.node label children) id)
    (helement : label.element = .list marker ordered start)
    (hcontent : PrintsEach config scene depth (scene.document.children id)
      { before with lists := ⟨marker, ordered, start⟩ :: before.lists }
      { before with lists := frame :: before.lists } lines) :
    Prints config scene (depth + 1) id before before
      (Printer.separation (scene.previousKind id) label ++ lines) := by
  have hnode : (scene.node id).element = .list marker ordered start :=
    hholds.element_eq.trans helement
  have hrender : builtIn label.element.kind = some (asBlock Render.list) := by
    rw [helement]
    rfl
  obtain ⟨script, hscript, hlines⟩ := hcontent
  exact prints_block hholds.label_eq (performs_enter hholds hrender (performs_list_enter hnode))
    hscript (performs_exit hholds hrender (performs_list_exit rfl)) hlines.flushLine

/-- A list that is open only counts. -/
theorem nextMarker_snd (frame : ListFrame) :
    (ListItem.nextMarker frame).2.marker = frame.marker ∧
      (ListItem.nextMarker frame).2.ordered = frame.ordered ∧
      (frame.ordered → (ListItem.nextMarker frame).2.ordinal = frame.ordinal + 1) := by
  rw [ListItem.nextMarker]
  split
  · exact ⟨rfl, rfl, fun _ => rfl⟩
  · next hordered => exact ⟨rfl, rfl, fun h => absurd h hordered⟩

/-- The prefix that an item gets from the list that is open is the one for its number. -/
theorem firstLead_nextMarker {frame : ListFrame} {number : Nat} (hmarker : frame.marker < 0x80)
    (hnumber : frame.ordered → frame.ordinal = number) :
    ListItem.firstLead (ListItem.nextMarker frame).1 =
      Printer.itemPrefix frame.marker frame.ordered number := by
  have hascii : frame.marker.toNat < 0x80 := hmarker
  have hchar : (Char.ofNat frame.marker.toNat).toNat = frame.marker.toNat := by
    rw [Char.ofNat, dif_pos (.inl (Nat.lt_trans hascii (by decide)))]
    rfl
  have htail : Utf8.encode [Char.ofNat frame.marker.toNat, ' '] = [frame.marker, 0x20] := by
    show Utf8.encodeChar _ ++ _ = _
    rw [Utf8.encodeChar_of_lt (by rwa [hchar]), hchar]
    simp [Utf8.encodeChar]
  rw [ListItem.firstLead, ListItem.nextMarker, Printer.itemPrefix]
  cases hordered : frame.ordered with
  | false => simp [htail]
  | true => simp [Utf8.encode_append, htail, hnumber hordered]

/-- An item without children ends a line of its own. -/
theorem emits_itemContent (hholds : scene.document.Holds (.node label children) id)
    {script : List WriterCall}
    (hscript : Emits script (Printer.row scene.config scene.source Printer.plain 0 none
      children)) :
    Emits (script ++ if !scene.document.hasChildren id then [.endLine] else [])
      (if children.isEmpty then [[]]
        else Printer.row scene.config scene.source Printer.plain 0 none children) := by
  rw [hholds.hasChildren]
  cases children with
  | nil => exact hscript.append .endLine
  | cons => simpa using hscript

/-- An item prints what is in it behind its marker and an indent. -/
theorem prints_listItem {frame : ListFrame} {lists : List ListFrame}
    (hholds : scene.document.Holds (.node label children) id)
    (helement : label.element = .listItem) (hlists : before.lists = frame :: lists)
    (hcontent : PrintsEach config scene depth (scene.document.children id)
      { before with lists := (ListItem.nextMarker frame).2 :: lists }
      { before with lists := (ListItem.nextMarker frame).2 :: lists }
      (Printer.row scene.config scene.source Printer.plain 0 none children)) :
    Prints config scene (depth + 1) id before
      { before with lists := (ListItem.nextMarker frame).2 :: lists }
      (Printer.separation (scene.previousKind id) label ++
        hang (ListItem.firstLead (ListItem.nextMarker frame).1)
          (ListItem.laterLead scene.config (ListItem.firstLead (ListItem.nextMarker frame).1))
          (if children.isEmpty then [[]]
            else Printer.row scene.config scene.source Printer.plain 0 none children)) := by
  have hrender : builtIn label.element.kind = some (asBlock Render.listItem) := by
    rw [helement]
    rfl
  obtain ⟨script, hscript, hlines⟩ := hcontent
  refine prints_block hholds.label_eq
    (performs_enter hholds hrender (performs_listItem_enter (performs_itemMarker hlists)))
    hscript (performs_exit hholds hrender performs_listItem_exit) ?_
  have hitem := (emits_itemContent hholds hlines).hung
    (ListItem.firstLead (ListItem.nextMarker frame).1)
    (ListItem.laterLead scene.config (ListItem.firstLead (ListItem.nextMarker frame).1))
  simpa [itemLeads] using hitem.flushLine

end Block

/-- Items have no attributes. -/
theorem Element.eq_listItem {element : Element} (hkind : element.kind = .listItem) :
    element = .listItem := by
  cases element <;> first | rfl | cases hkind

/-- A parent that holds nothing has no children. -/
theorem Tree.eq_nil_of_areMarkdown {parent : Kind} {trees : List Tree}
    (hmarkdown : Tree.areMarkdown parent trees) (hnone : ∀ child, parent.mayHold child = false) :
    trees = [] := by
  cases trees with
  | nil => rfl
  | cons tree rest => simp [Tree.areMarkdown, hnone] at hmarkdown

/-- Containers other than lists hold blocks other than items. -/
def Kind.HoldsBlocks (parent : Kind) : Prop :=
  ∀ child, parent.mayHold child → child.isBlock ∧ child ≠ .listItem

/-- The containers are of these kinds. -/
theorem Kind.holdsBlocks {kind : Kind}
    (hkind : kind ∈ [.document, .blockquote, .listItem, .unsupported]) : kind.HoldsBlocks := by
  intro child hchild
  simp only [List.mem_cons, List.not_mem_nil, or_false] at hkind
  rcases hkind with rfl | rfl | rfl | rfl <;> simpa [Kind.mayHold, Kind.unsupported] using hchild

/-- What is shown of a block: that walking it prints its lines, and if it is an item,
that they get the next prefix of the list that is open. -/
def WalkPrints (config : Config) (scene : Scene) (tree : Tree) : Prop :=
  ∀ id depth (before : RenderState), scene.document.Holds tree id → tree.isMarkdown →
    tree.kind.isBlock → tree.height ≤ depth → before.codeSpan = none →
    let lines := Printer.block scene.config scene.source (scene.previousKind id) tree
    (tree.kind ≠ .listItem → Prints config scene depth id before before
      (Printer.separation (scene.previousKind id) tree.label ++ lines)) ∧
    (tree.kind = .listItem → ∀ frame lists, before.lists = frame :: lists →
      Prints config scene depth id before
        { before with lists := (ListItem.nextMarker frame).2 :: lists }
        (Printer.separation (scene.previousKind id) tree.label ++
          hang (ListItem.firstLead (ListItem.nextMarker frame).1)
            (ListItem.laterLead scene.config
              (ListItem.firstLead (ListItem.nextMarker frame).1)) lines))

/-- What is shown of blocks in a row: that walking them prints their lines, and if they
are items, that they get the prefixes for their numbers. -/
def WalkPrintsRow (config : Config) (scene : Scene) (trees : List Tree) : Prop :=
  ∀ ids parent previous first depth (before : RenderState),
    scene.document.Row parent previous first ids → scene.document.HoldsEach trees ids →
    Tree.heightOfRow trees ≤ depth → before.codeSpan = none →
    (∀ kind number, Tree.areMarkdown kind trees → kind.HoldsBlocks →
      PrintsEach config scene depth ids before before
        (Printer.row scene.config scene.source Printer.plain number
          (previous.map scene.document.kind) trees)) ∧
    ∀ (frame : ListFrame) number lists, Tree.areMarkdown .list trees → frame.marker < 0x80 →
      (frame.ordered → frame.ordinal = number) → before.lists = frame :: lists →
      ∃ last, PrintsEach config scene depth ids before { before with lists := last :: lists }
        (Printer.row scene.config scene.source
          (Printer.item scene.config frame.marker frame.ordered) number
          (previous.map scene.document.kind) trees)

/-- A block that is not an item prints its lines, whatever its kind. -/
theorem walkPrints_of_ne {id : NodeId} {label : Label} {children : List Tree} {depth : Nat}
    {before : RenderState} (ih : WalkPrintsRow config scene children)
    (hholds : scene.document.Holds (.node label children) id)
    (hmarkdown : (Tree.node label children).isMarkdown) (hblock : label.element.kind.isBlock)
    (hitem : label.element ≠ .listItem) (hdepth : Tree.heightOfRow children ≤ depth)
    (hspan : before.codeSpan = none) :
    Prints config scene (depth + 1) id before before
      (Printer.separation (scene.previousKind id) label ++
        Printer.block scene.config scene.source (scene.previousKind id)
          (.node label children)) := by
  simp only [Tree.isMarkdown, Bool.and_eq_true] at hmarkdown
  obtain ⟨⟨hcore, hmarker⟩, hchildren⟩ := hmarkdown
  have hrow := fun (inside : RenderState) hinside => ih _ _ _ _ depth inside
    hholds.children.1 hholds.children.2 hdepth hinside
  have hblocks := (hrow before hspan).1 _ 0 hchildren
  have hnone := Tree.eq_nil_of_areMarkdown hchildren
  rw [Printer.block]
  cases helement : label.element <;> rw [helement] at hcore hmarker hblock
  case document =>
      exact prints_document hholds (by rw [helement]; rfl)
        (hblocks (Kind.holdsBlocks (by simp [helement, Element.kind])))
  case blockquote =>
      exact prints_blockquote hholds helement
        (hblocks (Kind.holdsBlocks (by simp [helement, Element.kind])))
  case custom name block =>
      have hunsupported : Kind.custom name block = .unsupported := by
        simpa [Kind.isCore, Element.kind] using hcore
      have hkind : label.element.kind = .unsupported := by
        rw [helement, Element.kind, hunsupported]
      apply prints_unsupported hholds
      · rw [hkind]
        rfl
      · exact hblocks (Kind.holdsBlocks (by simp [hkind]))
  case list marker ordered start =>
      have hascii : marker < 0x80 := of_decide_eq_true hmarker
      obtain ⟨last, hitems⟩ := (hrow { before with
          lists := ⟨marker, ordered, start⟩ :: before.lists } hspan).2
        ⟨marker, ordered, start⟩ start before.lists (by rw [helement] at hchildren; exact hchildren)
        hascii (fun _ => rfl) rfl
      exact prints_list hholds helement hitems
  case listItem => exact absurd helement hitem
  case paragraph | textBlock =>
      refine prints_paragraph hholds (by rw [helement]; rfl) hchildren ?_ hdepth hspan
      rw [helement]
      simp [Element.kind, Kind.mayHold]
  case heading level => exact prints_heading hholds helement hchildren hdepth hspan
  case thematicBreak =>
      obtain rfl := hnone (by rw [helement]; exact fun _ => rfl)
      exact prints_thematicBreak hholds helement
  case codeBlock =>
      obtain rfl := hnone (by rw [helement]; exact fun _ => rfl)
      exact prints_codeBlock hholds helement
  case fencedCodeBlock info =>
      obtain rfl := hnone (by rw [helement]; exact fun _ => rfl)
      exact prints_fencedCodeBlock hholds helement
  case htmlBlock closure =>
      obtain rfl := hnone (by rw [helement]; exact fun _ => rfl)
      exact prints_htmlBlock hholds helement
  all_goals cases hblock

/-- A tree is printed if the trees below it are, whatever kind of block it is. -/
theorem walkPrints_node {label : Label} {children : List Tree}
    (ih : WalkPrintsRow config scene children) :
    WalkPrints config scene (.node label children) := by
  intro id depth before hholds hmarkdown hblock hdepth hspan lines
  cases depth with
  | zero => cases hdepth
  | succ depth =>
      have hdepth : Tree.heightOfRow children ≤ depth := Nat.le_of_succ_le_succ hdepth
      constructor
      · intro hkind
        apply walkPrints_of_ne ih hholds hmarkdown hblock _ hdepth hspan
        intro helement
        exact hkind (congrArg Element.kind helement)
      · intro hkind frame lists hlists
        have helement : label.element = .listItem := Element.eq_listItem hkind
        simp only [Tree.isMarkdown, Bool.and_eq_true] at hmarkdown
        have hcontent := (ih _ _ _ _ depth
          { before with lists := (ListItem.nextMarker frame).2 :: lists } hholds.children.1
          hholds.children.2 hdepth hspan).1 _ 0 hmarkdown.2
          (Kind.holdsBlocks (by simp [helement, Element.kind]))
        have hlines : lines =
            if children.isEmpty then [[]]
            else Printer.row scene.config scene.source Printer.plain 0 none children := by
          simp only [lines, Printer.block, helement]
        rw [hlines]
        exact prints_listItem hholds helement hlists hcontent

/-- Trees side by side are printed one after the other. -/
theorem walkPrintsRow_cons {tree : Tree} {rest : List Tree}
    (ihTree : WalkPrints config scene tree) (ihRest : WalkPrintsRow config scene rest) :
    WalkPrintsRow config scene (tree :: rest) := by
  intro ids parent previous first depth before hrow hholds hdepth hspan
  obtain ⟨id, ids, rfl, hid, hids⟩ := hholds
  obtain ⟨-, -, hprevious, hlater⟩ := hrow
  rw [Tree.heightOfRow, Nat.max_le] at hdepth
  have hbefore : scene.previousKind id = previous.map scene.document.kind := by
    rw [← hprevious]
    rfl
  have hkind : (some id).map scene.document.kind = some tree.kind := by
    rw [← hid.kind_eq]
    rfl
  constructor
  · intro kind number hmarkdown hblocks
    simp only [Tree.areMarkdown, Bool.and_eq_true] at hmarkdown
    obtain ⟨⟨hplace, htree⟩, hrest⟩ := hmarkdown
    obtain ⟨hblock, hitem⟩ := hblocks _ hplace
    obtain ⟨front, hfront, hfirst⟩ :=
      (ihTree id depth before hid htree hblock hdepth.1 hspan).1 hitem
    obtain ⟨back, hback, hsecond⟩ :=
      (ihRest ids _ _ _ depth before hlater hids hdepth.2 hspan).1 kind (number + 1) hrest hblocks
    rw [hbefore] at hfirst
    rw [hkind] at hsecond
    exact ⟨front ++ back, hfront.bind hback, hfirst.append hsecond⟩
  · intro frame number lists hmarkdown hmarker hnumber hlists
    simp only [Tree.areMarkdown, Bool.and_eq_true] at hmarkdown
    obtain ⟨⟨hplace, htree⟩, hrest⟩ := hmarkdown
    have hitem : tree.kind = .listItem := of_decide_eq_true hplace
    have hblock : tree.kind.isBlock := by
      rw [hitem]
      rfl
    obtain ⟨front, hfront, hfirst⟩ :=
      (ihTree id depth before hid htree hblock hdepth.1 hspan).2 hitem frame lists hlists
    obtain ⟨hsameMarker, hsameOrdered, hnext⟩ := nextMarker_snd frame
    obtain ⟨last, back, hback, hsecond⟩ :=
      (ihRest ids _ _ _ depth { before with lists := (ListItem.nextMarker frame).2 :: lists }
        hlater hids hdepth.2 hspan).2 (ListItem.nextMarker frame).2 (number + 1) lists hrest
        (by rwa [hsameMarker])
        (fun hordered => by rw [hsameOrdered] at hordered; rw [hnext hordered, hnumber hordered])
        rfl
    rw [hbefore, firstLead_nextMarker hmarker hnumber] at hfirst
    rw [hkind, hsameMarker, hsameOrdered] at hsecond
    exact ⟨last, front ++ back, hfront.bind hback, hfirst.append hsecond⟩

/-- What the printer gives for blocks is what walking them writes. -/
theorem walk_block (config : Config) (scene : Scene) :
    (∀ tree, WalkPrints config scene tree) ∧ ∀ trees, WalkPrintsRow config scene trees := by
  apply Tree.rows_induction
  · intro label children ih
    exact walkPrints_node ih
  · intro ids parent previous first depth before hrow hholds hdepth hspan
    cases hholds
    constructor
    · intro kind number hmarkdown hblocks
      exact ⟨[], .pure, .nil⟩
    · intro frame number lists hmarkdown hmarker hnumber hlists
      refine ⟨frame, [], ?_, .nil⟩
      rw [← hlists]
      exact .pure
  · intro tree rest ihTree ihRest
    exact walkPrintsRow_cons ihTree ihRest

end MarkdownFormat
