/-
# Rendering prints inline nodes

Walking an inline node of a document feeds the bytes into the current line that the
printer gives for the tree below the node, by induction over that tree. The visits to a
node write what stands around its children; only a code span changes the state.
-/

import MarkdownFormat.Proofs.Render.Printer
import MarkdownFormat.Proofs.Render.Walk
import MarkdownFormat.Proofs.Text.Utf8

namespace MarkdownFormat

open Renderer

/-- A line without newlines stays in one piece. -/
theorem linesOf_replicate {byte : UInt8} {count : Nat} (hbyte : byte ≠ newline)
    (hcount : 0 < count) : linesOf (List.replicate count byte) = [List.replicate count byte] := by
  have hnone : newline ∉ List.replicate count byte := by
    simp [List.mem_replicate, Ne.symm hbyte]
  exact linesOf_of_notMem (by simpa using Nat.ne_of_gt hcount) hnone

namespace Printer

/-- Outside of all code spans, an inline node leaves no code span open. -/
theorem inline_closed (source : Bytes) :
    (∀ tree, (inline source none tree).2 = none) ∧
      ∀ trees, (inlineRow source none trees).2 = none := by
  apply Tree.rows_induction
  · intro label children ih
    rw [inline]
    split <;> simp [ih]
  · rfl
  · intro tree rest ihTree ihRest
    simp [inlineRow, ihTree, ihRest]

/-- An inline node other than a code span stands around its children. -/
theorem inline_of_ne {source : Bytes} {label : Label} (hspan : label.element ≠ .codeSpan)
    (openSpan : Option CodeSpanStyle) (children : List Tree) :
    inline source openSpan (.node label children) =
      (front source openSpan label.element ++
          ((inlineRow source openSpan children).1 ++ back label.element),
        (inlineRow source openSpan children).2) := by
  rw [inline]
  split
  · contradiction
  · rfl

/-- A code span stands between fences. -/
theorem inline_codeSpan {source : Bytes} {label : Label} (hspan : label.element = .codeSpan)
    (openSpan : Option CodeSpanStyle) (children : List Tree) :
    let style := CodeSpan.style (Utf8.decodeLossy (spanContent source children))
    let inside := inlineRow source (some style) children
    inline source openSpan (.node label children) =
      (Utf8.encode (CodeSpan.opening style) ++
        (inside.1 ++ Utf8.encode (CodeSpan.closing (inside.2.getD {}))), none) := by
  rw [inline, hspan]

end Printer

/-- Inline kinds hold inline kinds only. -/
theorem Kind.isBlock_of_mayHold {parent child : Kind} (hcore : parent.isCore)
    (hinline : parent.isBlock = false) (hchild : parent.mayHold child) :
    child.isBlock = false := by
  cases parent <;> try cases hinline
  case custom name => simp [isCore, unsupported] at hcore
  all_goals simpa [mayHold] using hchild

variable {scene : Scene} {config : Config}

/-- The function that a visit calls. -/
theorem dispatch_eq {id : NodeId} {render : RenderFn}
    (hrender : builtIn (scene.node id).element.kind = some render) (phase : Phase) :
    (standard config).dispatch scene id phase = render scene id phase := by
  have hfunction : (standard config).functions (scene.document.kind id) = some render :=
    hrender
  simp only [dispatch, hfunction]

/-- A hard line break is a backslash and a newline, a soft one a newline. -/
theorem feeds_breakScript (breaks : LineBreaks) :
    Feeds (breakScript breaks)
      (if breaks.hard then Utf8.encode ['\\'] ++ [newline]
        else if breaks.soft then [newline] else []) := by
  unfold breakScript
  split
  · exact (Feeds.write _).append .endLine
  · split
    · exact .endLine
    · exact .nil

/-- Raw HTML is fed segment by segment. -/
theorem feeds_segments (source : Bytes) (segments : List Value) :
    Feeds (segments.flatMap fun value => [.write (value.bytes source)])
      (segments.flatMap (Value.bytes source)) := by
  induction segments with
  | nil => exact .nil
  | cons value segments ih => exact (Feeds.write _).append ih

/-- The visits to an inline node other than a code span write what stands before and
behind its children. -/
theorem exists_performs_inline {id : NodeId} {element : Element}
    (helement : (scene.node id).element = element) (hcore : element.kind.isCore)
    (hinline : element.kind.isBlock = false) (hspan : element ≠ .codeSpan)
    (phase : Phase) (state : RenderState) :
    ∃ script,
      Performs ((standard config).dispatch scene id phase) state script .proceed state ∧
      Feeds script (match phase with
        | .enter => Printer.front scene.source state.codeSpan element
        | .exit => Printer.back element) := by
  have hdispatch : ∀ render, builtIn element.kind = some render →
      (standard config).dispatch scene id phase = render scene id phase :=
    fun render hrender => dispatch_eq (by rw [helement, hrender]) phase
  cases element <;> try cases hinline
  case text value breaks =>
      rw [hdispatch Render.text rfl]
      cases phase with
      | enter =>
          exact ⟨_, performs_text_enter helement,
            (Feeds.write _).append (feeds_breakScript breaks)⟩
      | exit => exact ⟨_, performs_text_exit, .nil⟩
  case emphasis level =>
      rw [hdispatch Render.emphasis rfl]
      cases phase <;> exact ⟨_, performs_emphasis helement, .write _⟩
  case codeSpan => exact absurd rfl hspan
  case link destination title =>
      rw [hdispatch Render.link rfl]
      cases phase with
      | enter => exact ⟨_, performs_link_enter helement, .write _⟩
      | exit => exact ⟨_, performs_link_exit helement, .write _⟩
  case image destination title =>
      rw [hdispatch Render.image rfl]
      cases phase with
      | enter => exact ⟨_, performs_image_enter helement, .write _⟩
      | exit => exact ⟨_, performs_image_exit helement, .write _⟩
  case autoLink url =>
      rw [hdispatch Render.autoLink rfl]
      cases phase with
      | enter =>
          exact ⟨_, performs_autoLink_enter helement, (Feeds.write _).append (.write _)⟩
      | exit => exact ⟨_, performs_autoLink_exit, .write _⟩
  case rawHtml segments =>
      rw [hdispatch Render.rawHtml rfl]
      cases phase with
      | enter => exact ⟨_, performs_rawHtml_enter helement, feeds_segments _ segments⟩
      | exit => exact ⟨_, performs_rawHtml_exit, .nil⟩
  case custom name => simp [Kind.isCore, Element.kind, Kind.unsupported] at hcore

/-- The visits to a code span write its fences, and keep track of it. -/
theorem performs_codeSpan {id : NodeId} {label : Label} {children : List Tree}
    (hholds : scene.document.Holds (.node label children) id)
    (helement : label.element = .codeSpan) (state : RenderState) :
    Performs ((standard config).dispatch scene id .enter) state
      [.write (Utf8.encode (CodeSpan.opening (spanStyle scene id)))] .proceed
      { state with codeSpan := some (spanStyle scene id) } ∧
    Performs ((standard config).dispatch scene id .exit) state
      [.write (Utf8.encode (CodeSpan.closing (state.codeSpan.getD {})))] .proceed
      { state with codeSpan := none } := by
  have hkind : (scene.node id).element.kind = .codeSpan := by
    rw [Scene.node, hholds.element_eq]
    exact congrArg Element.kind helement
  rw [dispatch_eq (by rw [hkind]; rfl), dispatch_eq (by rw [hkind]; rfl)]
  exact ⟨performs_codeSpan_enter, performs_codeSpan_exit⟩

/-- The texts in a code span are those in its tree. -/
theorem content_eq_spanContent {children : List Tree} {ids : List NodeId}
    (hholds : scene.document.HoldsEach children ids) :
    (ids.flatMap fun child =>
      match (scene.node child).element with
      | .text value _ => value.bytes scene.source
      | _ => []) = Printer.spanContent scene.source children := by
  induction children generalizing ids with
  | nil =>
      cases hholds
      rfl
  | cons tree rest ih =>
      obtain ⟨id, ids, rfl, hid, hids⟩ := hholds
      rw [List.flatMap_cons, ih hids, Scene.node, hid.element_eq]
      rfl

/-- A code span has the style that its content asks for. -/
theorem spanStyle_eq {id : NodeId} {label : Label} {children : List Tree}
    (hholds : scene.document.Holds (.node label children) id) :
    spanStyle scene id =
      CodeSpan.style (Utf8.decodeLossy (Printer.spanContent scene.source children)) := by
  have hcontent : CodeSpan.content scene id = Printer.spanContent scene.source children :=
    content_eq_spanContent hholds.children.2
  rw [spanStyle, hcontent]

/-- What the printer gives for an inline node is what walking it writes. -/
theorem walk_inline :
    (∀ (tree : Tree) (id : NodeId) (depth : Nat) (before : RenderState),
      scene.document.Holds tree id → tree.isMarkdown → tree.kind.isBlock = false →
      tree.height ≤ depth → ∃ script,
        Checked (scene.document.walkTo ((standard config).visit scene) depth id) before script
          { before with
            codeSpan := (Printer.inline scene.source before.codeSpan tree).2 } ∧
        Feeds script (Printer.inline scene.source before.codeSpan tree).1) ∧
    ∀ (trees : List Tree) (ids : List NodeId) (depth : Nat) (before : RenderState)
      (parent : Kind), scene.document.HoldsEach trees ids →
      Tree.areMarkdown parent trees → (∀ child, parent.mayHold child → child.isBlock = false) →
      Tree.heightOfRow trees ≤ depth → ∃ script,
        Checked (Document.walkEach
          (scene.document.walkTo ((standard config).visit scene) depth) ids) before script
          { before with
            codeSpan := (Printer.inlineRow scene.source before.codeSpan trees).2 } ∧
        Feeds script (Printer.inlineRow scene.source before.codeSpan trees).1 := by
  apply Tree.rows_induction
  · intro label children ih id depth before hholds hmarkdown hinline hdepth
    cases depth with
    | zero => cases hdepth
    | succ depth =>
        simp only [Tree.isMarkdown, Bool.and_eq_true] at hmarkdown
        obtain ⟨⟨hcore, -⟩, hchildren⟩ := hmarkdown
        have hwalk := fun inside => ih _ depth inside _ hholds.children.2 hchildren
          (fun _ => Kind.isBlock_of_mayHold hcore hinline) (Nat.le_of_succ_le_succ hdepth)
        by_cases hspan : label.element = .codeSpan
        · obtain ⟨henter, -⟩ := @performs_codeSpan _ config _ _ _ hholds hspan before
          obtain ⟨script, hscript, hfeeds⟩ := hwalk _
          obtain ⟨-, hexit⟩ := @performs_codeSpan _ config _ _ _ hholds hspan
            { before with codeSpan := (Printer.inlineRow scene.source
                (some (spanStyle scene id)) children).2 }
          rw [Printer.inline_codeSpan hspan, ← spanStyle_eq hholds]
          exact ⟨_, checked_walkTo henter hscript hexit,
            (Feeds.write _).append (hfeeds.append (.write _))⟩
        · obtain ⟨opening, henter, hfront⟩ :=
            exists_performs_inline hholds.element_eq hcore hinline hspan .enter before
          obtain ⟨script, hscript, hfeeds⟩ := hwalk before
          obtain ⟨closing, hexit, hback⟩ :=
            exists_performs_inline hholds.element_eq hcore hinline hspan .exit _
          rw [Printer.inline_of_ne hspan]
          exact ⟨_, checked_walkTo henter hscript hexit, hfront.append (hfeeds.append hback)⟩
  · intro ids depth before parent hholds _ _ _
    cases hholds
    exact ⟨[], .pure, .nil⟩
  · intro tree rest ihTree ihRest ids depth before parent hholds hmarkdown hparent hdepth
    obtain ⟨id, ids, rfl, hid, hids⟩ := hholds
    simp only [Tree.areMarkdown, Bool.and_eq_true] at hmarkdown
    obtain ⟨⟨hplace, htree⟩, hrest⟩ := hmarkdown
    rw [Tree.heightOfRow, Nat.max_le] at hdepth
    obtain ⟨first, hfirst, hfront⟩ :=
      ihTree id depth before hid htree (hparent _ hplace) hdepth.1
    obtain ⟨later, hlater, hback⟩ := ihRest ids depth _ parent hids hrest hparent hdepth.2
    exact ⟨first ++ later, hfirst.bind hlater, hfront.append hback⟩

end MarkdownFormat
