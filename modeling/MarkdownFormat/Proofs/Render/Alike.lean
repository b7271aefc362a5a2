/-
# What a visit depends on

A visit looks at the node itself, at whether it has children, in a code span at the text
children, and in a block at the node before it. Two scenes that agree about these are
rendered alike at the node, whatever the rest of their documents is. So they are at every
other node where one inline gives way to others.
-/

import MarkdownFormat.Proofs.Document.Replacement
import MarkdownFormat.Proofs.Render.Completion
import MarkdownFormat.Proofs.Render.VisitLog

namespace MarkdownFormat

/-- The two scenes agree about all that a visit to a node looks at. -/
structure Scene.Alike (scene other : Scene) (id : NodeId) : Prop where
  source_eq : other.source = scene.source
  config_eq : other.config = scene.config
  label_eq : (other.node id).label = (scene.node id).label
  hasChildren_eq : other.document.hasChildren id = scene.document.hasChildren id
  content_eq : scene.document.kind id = .codeSpan →
    CodeSpan.content other id = CodeSpan.content scene id
  previous_eq : (scene.document.kind id).isBlock →
    (other.node id).previous.isSome = (scene.node id).previous.isSome
  followsText_eq : (scene.document.kind id).isBlock →
    other.document.followsText id = scene.document.followsText id

namespace Scene.Alike

variable {scene other : Scene} {id : NodeId} (halike : scene.Alike other id)
include halike

/-- Alike nodes have the same element. -/
theorem element_eq : (other.node id).element = (scene.node id).element :=
  congrArg Label.element halike.label_eq

/-- They have the same content lines. -/
theorem lines_eq : (other.node id).lines = (scene.node id).lines :=
  congrArg Label.lines halike.label_eq

/-- They have the same mark for a blank line before. -/
theorem blankBefore_eq : (other.node id).blankBefore = (scene.node id).blankBefore :=
  congrArg Label.blankBefore halike.label_eq

/-- They are of the same kind. -/
theorem kind_eq : other.document.kind id = scene.document.kind id :=
  congrArg Element.kind halike.element_eq

/-- A text looks at its element alone. -/
theorem text : Render.text other id = Render.text scene id := by
  funext phase
  simp only [Render.text, halike.element_eq, halike.source_eq]

/-- Emphasis looks at its level alone. -/
theorem emphasis : Render.emphasis other id = Render.emphasis scene id := by
  funext phase
  simp only [Render.emphasis, halike.element_eq]

/-- A code span looks at its text children, which are alike as far as their bytes go. -/
theorem codeSpan (hkind : scene.document.kind id = .codeSpan) :
    Render.codeSpan other id = Render.codeSpan scene id := by
  funext phase
  simp only [Render.codeSpan, halike.content_eq hkind]

/-- A link looks at its element alone. -/
theorem link : Render.link other id = Render.link scene id := by
  funext phase
  simp only [Render.link, halike.element_eq]

/-- An image looks at its element alone. -/
theorem image : Render.image other id = Render.image scene id := by
  funext phase
  simp only [Render.image, halike.element_eq]

/-- An address looks at its element alone. -/
theorem autoLink : Render.autoLink other id = Render.autoLink scene id := by
  funext phase
  simp only [Render.autoLink, halike.element_eq, halike.source_eq]

/-- Raw HTML looks at its element alone. -/
theorem rawHtml : Render.rawHtml other id = Render.rawHtml scene id := by
  funext phase
  simp only [Render.rawHtml, halike.element_eq, halike.source_eq]

/-- Content lines belong to the node. -/
theorem contentLines : Render.contentLines other id = Render.contentLines scene id := by
  simp only [Render.contentLines, halike.lines_eq, halike.source_eq]

/-- An indented code block looks at its lines alone. -/
theorem codeBlock : Render.codeBlock other id = Render.codeBlock scene id := by
  funext phase
  simp only [Render.codeBlock, halike.config_eq, halike.contentLines]

/-- The fence depends on the info string and the lines. -/
theorem fencedCodeBlock : Render.fencedCodeBlock other id = Render.fencedCodeBlock scene id := by
  funext phase
  simp only [Render.fencedCodeBlock, halike.element_eq, halike.lines_eq, halike.source_eq,
    halike.contentLines]

/-- An HTML block looks at its lines and its element. -/
theorem htmlBlock : Render.htmlBlock other id = Render.htmlBlock scene id := by
  funext phase
  simp only [Render.htmlBlock, halike.element_eq, halike.source_eq, halike.contentLines]

/-- A list looks at its element alone. -/
theorem list : Render.list other id = Render.list scene id := by
  funext phase
  simp only [Render.list, halike.element_eq]

/-- An item looks at whether it has children. -/
theorem listItem : Render.listItem other id = Render.listItem scene id := by
  funext phase
  simp only [Render.listItem, halike.config_eq, halike.hasChildren_eq]

variable (hblock : (scene.document.kind id).isBlock)
include hblock

/-- Whether an empty line goes before a block depends on the block before it. -/
theorem separator : Render.separator other id = Render.separator scene id := by
  funext phase
  simp only [Render.separator, halike.previous_eq hblock, halike.blankBefore_eq]

/-- Whether a heading is underlined depends on what goes before it. -/
theorem isUnderlined (level : Nat) :
    Heading.isUnderlined other id level = Heading.isUnderlined scene id level := by
  simp only [Heading.isUnderlined, halike.hasChildren_eq, halike.lines_eq, halike.config_eq,
    halike.followsText_eq hblock]

/-- So a heading is written alike. -/
theorem heading : Render.heading other id = Render.heading scene id := by
  have hnumbered : Render.atxHeading other id = Render.atxHeading scene id := by
    funext level phase
    cases phase <;> simp only [Render.atxHeading, halike.hasChildren_eq, halike.config_eq]
  have hunderlined : Render.setextHeading other id = Render.setextHeading scene id := by
    funext level phase
    cases phase <;> simp only [Render.setextHeading, Heading.underline, Heading.fullWidth,
      halike.lines_eq, halike.source_eq, halike.config_eq]
  funext phase
  simp only [Render.heading, halike.element_eq, halike.isUnderlined hblock, hnumbered, hunderlined]

/-- A thematic break also looks at what goes before it. -/
theorem thematicBreak : Render.thematicBreak other id = Render.thematicBreak scene id := by
  funext phase
  simp only [Render.thematicBreak, halike.config_eq, halike.followsText_eq hblock]

/-- Within what all blocks have in common two functions are alike if they are so on their own. -/
theorem asBlock {own : RenderFn} (hown : own other id = own scene id) :
    asBlock own other id = asBlock own scene id := by
  have hseparator := halike.separator hblock
  funext phase
  cases phase <;> simp only [MarkdownFormat.asBlock, chain, runAll, hown, hseparator,
    List.reverse_cons, List.reverse_nil, List.nil_append, List.cons_append]

end Scene.Alike

namespace Renderer

variable {scene other : Scene} {id : NodeId}

/-- Each built-in function does the same at alike nodes of its kind. -/
theorem builtIn_alike (halike : scene.Alike other id) {kind : Kind}
    (hkind : scene.document.kind id = kind) {render : RenderFn}
    (hrender : builtIn kind = some render) : render other id = render scene id := by
  have hblock : kind.isBlock = true → (scene.document.kind id).isBlock = true :=
    fun hblock => hkind ▸ hblock
  cases kind with
  | document | paragraph | textBlock =>
      cases hrender
      exact halike.separator (hblock rfl)
  | heading =>
      cases hrender
      exact halike.asBlock (hblock rfl) (halike.heading (hblock rfl))
  | thematicBreak =>
      cases hrender
      exact halike.asBlock (hblock rfl) (halike.thematicBreak (hblock rfl))
  | blockquote =>
      cases hrender
      exact halike.asBlock (hblock rfl) rfl
  | codeBlock =>
      cases hrender
      exact halike.asBlock (hblock rfl) halike.codeBlock
  | fencedCodeBlock =>
      cases hrender
      exact halike.asBlock (hblock rfl) halike.fencedCodeBlock
  | htmlBlock =>
      cases hrender
      exact halike.asBlock (hblock rfl) halike.htmlBlock
  | list =>
      cases hrender
      exact halike.asBlock (hblock rfl) halike.list
  | listItem =>
      cases hrender
      exact halike.asBlock (hblock rfl) halike.listItem
  | text =>
      cases hrender
      exact halike.text
  | emphasis =>
      cases hrender
      exact halike.emphasis
  | codeSpan =>
      cases hrender
      exact halike.codeSpan hkind
  | link =>
      cases hrender
      exact halike.link
  | image =>
      cases hrender
      exact halike.image
  | autoLink =>
      cases hrender
      exact halike.autoLink
  | rawHtml =>
      cases hrender
      exact halike.rawHtml
  | custom name block =>
      rw [builtIn] at hrender
      split at hrender
      · rename_i hunsupported
        cases hrender
        exact halike.asBlock (hblock (by rw [hunsupported]; rfl)) rfl
      · cases hrender

/-- Where the scenes agree about what a visit looks at, its function does the same. -/
theorem dispatch_alike (config : Config) (strikethrough : Bool) (halike : scene.Alike other id) :
    (forMarkdown config strikethrough).dispatch other id =
      (forMarkdown config strikethrough).dispatch scene id := by
  funext phase
  simp only [dispatch, halike.kind_eq]
  cases hfunction : (forMarkdown config strikethrough).functions (scene.document.kind id) with
  | none => rfl
  | some render =>
      rw [functions_forMarkdown] at hfunction
      split at hfunction
      · cases hfunction
        rfl
      · exact congrFun (builtIn_alike halike rfl hfunction) phase

/-- So each visit of a renderer does the same. -/
theorem visit_alike {config : Config} {strikethrough : Bool} (halike : scene.Alike other id) :
    (forMarkdown config strikethrough).visit other id =
      (forMarkdown config strikethrough).visit scene id := by
  funext phase
  simp only [visit, dispatch_alike config strikethrough halike]

end Renderer

/-- What a child adds to the content of a code span. -/
def CodeSpan.childBytes (scene : Scene) (child : NodeId) : Bytes :=
  match (scene.node child).element with
  | .text value _ => value.bytes scene.source
  | _ => []

/-- The content of a code span is that of its children, one after the other. -/
theorem CodeSpan.content_eq (scene : Scene) (id : NodeId) :
    CodeSpan.content scene id =
      (scene.document.children id).flatMap (CodeSpan.childBytes scene) := rfl

namespace Document

variable {doc changed : Document} {id k : NodeId} {others : List NodeId}

/-- A node behind an inline does not follow the text of a block. -/
theorem followsText_of_previous {previous : NodeId}
    (hprevious : (doc.node k).previous = some previous)
    (hinline : (doc.kind previous).isBlock = false) : doc.followsText k = false := by
  have hother : ∀ kind : Kind, kind.isBlock = true → doc.kind previous ≠ kind := by
    rintro kind hblock rfl
    rw [hinline] at hblock
    cases hblock
  simp [followsText, hprevious, hother .paragraph rfl, hother .textBlock rfl]

/-- No other node changes its kind. -/
theorem IsReplaced.kind_eq (hreplaced : doc.IsReplaced changed id others) (hid : k ≠ id)
    (hk : k < doc.size) : changed.kind k = doc.kind k :=
  congrArg (fun label => label.element.kind) (hreplaced.label_eq k hid hk)

/-- Where inlines have come into the place of an inline, the other nodes are rendered as before:
the blocks behind it do not follow the text of a block, neither now nor then. -/
theorem IsReplaced.alike (hreplaced : doc.IsReplaced changed id others) (source : Bytes)
    (config : Config) (hid : k ≠ id) (hk : k < doc.size)
    (hcontent : doc.kind k = .codeSpan → id ∈ doc.children k →
      others.flatMap (CodeSpan.childBytes ⟨source, changed, config⟩) =
        CodeSpan.childBytes ⟨source, doc, config⟩ id)
    (hrow : (doc.kind k).isBlock → ∀ parent, doc.IsParent parent k →
      changed.children parent = (doc.children parent).flatMap (inPlace id others))
    (hinline : (doc.kind id).isBlock = false)
    (hinlines : ∀ other ∈ others, (changed.kind other).isBlock = false) :
    Scene.Alike ⟨source, doc, config⟩ ⟨source, changed, config⟩ k where
  source_eq := rfl
  config_eq := rfl
  label_eq := hreplaced.label_eq k hid hk
  hasChildren_eq := hreplaced.hasChildren_eq hid
  content_eq hkind := by
    rw [CodeSpan.content_eq, CodeSpan.content_eq]
    show (changed.children k).flatMap _ = (doc.children k).flatMap _
    rw [hreplaced.children_eq k hid, List.flatMap_assoc]
    apply List.flatMap_congr
    intro child hchild
    by_cases hne : child = id
    · rw [hne, inPlace_self]
      exact hcontent hkind (hne ▸ hchild)
    · have hlt := lt_size_of_parent ((hreplaced.wellFormed.mem_children k child).mp hchild)
      have helement : (changed.node child).element = (doc.node child).element :=
        congrArg Label.element (hreplaced.label_eq child hne hlt)
      rw [inPlace_of_ne hne, List.flatMap_singleton, CodeSpan.childBytes, CodeSpan.childBytes]
      show (match (changed.node child).element with | .text value _ => _ | _ => _) = _
      rw [helement]
      rfl
  previous_eq hblock := by
    show (changed.node k).previous.isSome = (doc.node k).previous.isSome
    rw [hreplaced.previous_eq hid hk (hrow hblock)]
    cases (doc.node k).previous with
    | none => rfl
    | some previous => simpa using hreplaced.inPlace_ne_nil previous
  followsText_eq hblock := by
    show changed.followsText k = doc.followsText k
    have hprevious := hreplaced.previous_eq hid hk (hrow hblock)
    have hblank : (changed.node k).blankBefore = (doc.node k).blankBefore :=
      congrArg Label.blankBefore (hreplaced.label_eq k hid hk)
    cases hold : (doc.node k).previous with
    | none =>
        rw [hold] at hprevious
        rw [followsText, followsText, hold, hprevious, hblank]
        rfl
    | some previous =>
        rw [hold, Option.bind_some] at hprevious
        by_cases hne : previous = id
        · obtain ⟨last, hlast⟩ := Option.ne_none_iff_exists'.mp
            (mt List.getLast?_eq_none_iff.mp (hreplaced.inPlace_ne_nil previous))
          rw [hlast] at hprevious
          rw [hne, inPlace_self] at hlast
          rw [followsText_of_previous hprevious (hinlines last (List.mem_of_getLast? hlast)),
            followsText_of_previous hold (hne ▸ hinline)]
        · rw [inPlace_of_ne hne] at hprevious
          have hlt := hreplaced.wellFormed.rows.previous_lt_size hold
          rw [followsText, followsText, hold, hprevious, hblank]
          simp [hreplaced.kind_eq hne hlt]

end Document

/-- The visits of a rendering into a sink that never fails go through. -/
theorem Renderer.exists_leads (config : Config) (strikethrough : Bool) (source : Bytes)
    (document : Document) :
    let renderer := forMarkdown config strikethrough
    ∃ after, (renderer.visit ⟨source, document, config⟩).Leads { writer := .onto .unlimited }
        (document.calls Document.root) after ∧
      renderer.render .unlimited source document =
        (none, { after with writer := after.writer.flushLine }) := by
  intro renderer
  obtain ⟨after, hrun, hrender⟩ := exists_render_unlimited config strikethrough source document
  have hpasses := hrun.passes
  rw [config_forMarkdown] at hpasses
  exact ⟨after, ⟨_, hpasses, hrun.calls_eq⟩, hrender⟩

end MarkdownFormat
