/-
# Headings with an underline

A heading is written with an underline where the configuration asks for it, and its text
stands on lines of its own then. Nothing keeps the first of these lines from starting
another block: the text of `# > a` becomes a block quote. The statements here say which lines
are written and exactly when a reader finds the start of a block in the first of them. It
finds none if the heading begins with a link, an image or an autolink, or with a text that
does not begin with the sign of a block.
-/

import MarkdownFormat.Proofs.Reader.BlockStart
import MarkdownFormat.Proofs.Render.AtxHeading
import MarkdownFormat.Proofs.Render.Paragraph
import MarkdownFormat.Proofs.Text.Lossy

namespace MarkdownFormat

namespace Chars

/-- The first line of a source, with its ending. -/
def firstLine (source : Bytes) : Chars :=
  (ofBytes source).lines.head?.getD []

/-- A line has no ending but at its end. -/
theorem not_isLineEnd_firstLine (source : Bytes) :
    ∀ c ∈ (firstLine source).text.dropLast, isLineEnd c = false := by
  rw [firstLine]
  cases hlines : (ofBytes source).lines with
  | nil => nofun
  | cons line rest =>
      obtain ⟨front, hfront, hline⟩ := exists_of_mem_cutAfter (hlines ▸ List.mem_cons_self)
      have hdropped : line.dropLast <+: front := by
        rcases hline with ⟨-, rfl⟩ | ⟨last, -, rfl⟩
        · exact List.dropLast_prefix line
        · rw [List.dropLast_concat]
      intro c hc
      rw [List.head?_cons, Option.getD_some, text, ← List.map_dropLast] at hc
      obtain ⟨char, hchar, rfl⟩ := List.mem_map.mp hc
      exact hfront char (hdropped.subset hchar)

/-- A line starts with the first character of the source. -/
theorem head?_firstLine {source : Bytes} {c : Char} (hc : c ≠ '\n')
    (hhead : (firstLine source).text.head? = some c) :
    (Utf8.decodeLossy source).head? = some c := by
  have hplaced : (ofBytes source).text.head? = some c := by
    have hflat : (ofBytes source).lines.flatten = ofBytes source := flatten_cutAfter _ _
    rw [firstLine] at hhead
    cases hlines : (ofBytes source).lines with
    | nil =>
        rw [hlines] at hhead
        cases hhead
    | cons line rest =>
        rw [hlines, List.head?_cons, Option.getD_some] at hhead
        obtain ⟨later, htext⟩ := List.head?_eq_some_iff.mp hhead
        rw [← hflat, hlines, List.flatten_cons, text, List.map_append, ← text, htext]
        rfl
  rw [ofBytes] at hplaced
  rw [Utf8.decodeLossy]
  generalize Utf8.pieces source = pieces at hplaced
  unfold place at hplaced
  split at hplaced
  · cases hplaced
  · exact absurd (Option.some.inj hplaced).symm hc
  · exact hplaced
  · exact hplaced
  · exact hplaced

end Chars

namespace Opening

/-- The signs are ASCII characters. -/
theorem toNat_of_isBlockSign {c : Char} (hsign : isBlockSign c) :
    0 < c.toNat ∧ c.toNat < 0x80 := by
  rw [isBlockSign, Bool.or_eq_true, List.contains_iff_mem] at hsign
  rcases hsign with hsign | hdigit
  · have hall : ∀ c ∈ ['>', '-', '+', '*', '#', '~', '\x60', '_'],
        0 < c.toNat ∧ c.toNat < 0x80 := by
      simp only [List.forall_mem_cons, List.not_mem_nil, false_implies, implies_true, and_true]
      decide
    exact hall c hsign
  · rw [Char.isDigit, Bool.and_eq_true, decide_eq_true_eq, decide_eq_true_eq] at hdigit
    exact ⟨Nat.lt_of_lt_of_le (by decide) (UInt32.le_iff_toNat_le.mp hdigit.1),
      Nat.lt_of_le_of_lt (UInt32.le_iff_toNat_le.mp hdigit.2) (by decide)⟩

/-- Whether a byte is the first of a line that starts no block but a paragraph. -/
def startsNoBlock (byte : UInt8) : Bool :=
  byte ≠ 0x20 && !isBlockSign (Char.ofNat byte.toNat)

/-- A line whose first byte starts no block starts none. -/
theorem not_lineStartsBlock {source : Bytes} (hhead : ∀ byte ∈ source.head?, startsNoBlock byte) :
    ¬ LineStartsBlock (Chars.firstLine source).text := by
  rintro ⟨indent, -, rest, htext, hstarts⟩
  obtain ⟨sign, later, rfl, hsign⟩ := hstarts.exists_sign
  -- Either the line is indented, or it starts with the sign.
  obtain ⟨c, hfirst, hc⟩ : ∃ c, (Chars.firstLine source).text.head? = some c ∧
      (c = ' ' ∨ isBlockSign c) := by
    rw [htext]
    cases indent with
    | zero => exact ⟨sign, rfl, .inr hsign⟩
    | succ indent => exact ⟨' ', rfl, .inl rfl⟩
  have hascii : 0 < c.toNat ∧ c.toNat < 0x80 := by
    rcases hc with rfl | hc
    · decide
    · exact toNat_of_isBlockSign hc
  have hplain : c ≠ '\n' := by
    rintro rfl
    rcases hc with hc | hc <;> cases hc
  have hbyte : c.toNat.toUInt8.toNat = c.toNat :=
    Utf8.toNat_toUInt8 (Nat.lt_trans hascii.2 (by decide))
  have hmarks := @Utf8.sameMarks_decodeLossy c.toNat.toUInt8 (by rw [hbyte]; exact hascii.1)
    (by rw [hbyte]; exact hascii.2) source
  rw [hbyte, Char.ofNat_toNat] at hmarks
  have hstart := hhead _ (hmarks.head?_iff.mpr (Chars.head?_firstLine hplain hfirst))
  rw [startsNoBlock, hbyte, Char.ofNat_toNat, Bool.and_eq_true, Bool.not_eq_true'] at hstart
  rcases hc with rfl | hc
  · exact absurd hstart.1 (by decide)
  · rw [hc] at hstart
    cases hstart.2

end Opening

/-- Whether a node is written with a first byte that starts no block but a paragraph: a link,
an image, an autolink, or a text that has such a first byte. -/
def Tree.startsNoBlock (source : Bytes) (tree : Tree) : Bool :=
  match tree.label.element with
  | .text value _ => (value.bytes source).head?.any Opening.startsNoBlock
  | .link _ _ | .image _ _ | .autoLink _ => true
  | _ => false

/-- Content starts with the front of its first node, unless that is a code span. -/
theorem Printer.exists_content_append (source : Bytes) {label : Label} (inner later : List Tree)
    (hspan : label.element ≠ .codeSpan) :
    ∃ rest, Printer.content source (.node label inner :: later) =
      front source none label.element ++ rest := by
  have hinline : (inline source none (.node label inner)).1 =
      front source none label.element ++
        ((inlineRow source none inner).1 ++ back label.element) := by
    rw [inline]
    cases helement : label.element with
    | codeSpan => exact absurd helement hspan
    | _ => rfl
  rw [content, inlineRow]
  dsimp only
  rw [hinline, List.append_assoc]
  exact ⟨_, rfl⟩

/-- Content that starts with such a node starts with such a byte. -/
theorem Printer.exists_content_cons {source : Bytes} {children : List Tree}
    (hfirst : children.head?.any (Tree.startsNoBlock source)) :
    ∃ byte rest, Printer.content source children = byte :: rest ∧ Opening.startsNoBlock byte := by
  cases children with
  | nil => cases hfirst
  | cons tree later =>
      obtain ⟨label, inner⟩ := tree
      have hcontent := @exists_content_append source label inner later
      rw [List.head?_cons, Option.any_some, Tree.startsNoBlock, Tree.label] at hfirst
      split at hfirst
      case h_1 value breaks helement =>
          obtain ⟨rest, hrest⟩ := hcontent (by simp [helement])
          cases hvalue : value.bytes source with
          | nil => simp [hvalue] at hfirst
          | cons byte bytes =>
              rw [hvalue, List.head?_cons, Option.any_some] at hfirst
              rw [hrest, helement, front, hvalue]
              exact ⟨byte, _, rfl, hfirst⟩
      case h_2 _ _ helement | h_3 _ _ helement | h_4 _ helement =>
          obtain ⟨rest, hrest⟩ := hcontent (by simp [helement])
          rw [hrest, helement]
          exact ⟨_, _, rfl, rfl⟩
      case h_5 => cases hfirst

namespace Heading

/-- The line below a heading is one line of equal characters. -/
theorem linesOf_underline (config : Config) (source : Bytes) (label : Label) (level : Nat) :
    linesOf (Printer.underline config source label level) =
      [Printer.underline config source label level] := by
  have hgrows : ∀ (widths : List Nat) (start : Nat), start ≤ widths.foldl max start := by
    intro widths
    induction widths with
    | nil => exact Nat.le_refl
    | cons width widths ih => exact fun start => (Nat.le_max_left _ _).trans (ih _)
  have hlines : ∀ count, 3 ≤ count → ∀ mark : Char, mark = '=' ∨ mark = '-' →
      linesOf (Utf8.encode (List.replicate count mark)) =
        [Utf8.encode (List.replicate count mark)] := by
    rintro count hcount mark (rfl | rfl) <;> rw [Utf8.encode_replicate (by decide)] <;>
      exact linesOf_replicate (by decide) (Nat.lt_of_lt_of_le (by decide) hcount)
  rw [Printer.underline]
  apply hlines
  · split
    · exact hgrows _ _
    · exact Nat.le_refl _
  · split
    · exact .inl rfl
    · exact .inr rfl

/-- The lines of a heading with an underline: those of its content, and the underline. -/
theorem linesOf_heading {config : Config} {source : Bytes} {previous : Option Kind} {label : Label}
    {level : Nat} {children : List Tree}
    (hunderlined : Printer.isUnderlined config previous label level children) :
    linesOf (Printer.heading config source previous label level children) =
      (Printer.content source children).splitOn newline ++
        [Printer.underline config source label level] := by
  rw [Printer.heading, if_pos hunderlined, linesOf_append_newline, linesOf_underline]

/-- A line of text is written without the blanks at its end. -/
theorem text_firstLine_trimmed {text : List Char} (htext : ∀ c ∈ text, isLineEnd c = false) :
    (Chars.firstLine (trimmedLine (Utf8.encode text) ++ [newline])).text =
      dropTrailing isBlank text ++ ['\n'] := by
  have hkept : ∀ c ∈ dropTrailing isBlank text, isLineEnd c = false :=
    fun c hc => htext c ((List.rdropWhile_prefix isBlank text).subset hc)
  have hbytes : trimmedLine (Utf8.encode text) ++ [newline] =
      Utf8.encode (dropTrailing isBlank text ++ ['\n']) := by
    rw [Utf8.trimmedLine_encode, Utf8.encode_append]
    rfl
  obtain ⟨hline, hlines⟩ := Chars.ofBytes_line hkept
  rw [hbytes, Chars.firstLine, hlines, List.head?_cons, Option.getD_some, hline]

/-- If the first node of some content starts no block, the first of its lines does not. -/
theorem head_trimmed {source : Bytes} {children : List Tree} {first : Bytes} {later : List Bytes}
    (hlines : (Printer.content source children).splitOn newline = first :: later)
    (hplain : children.head?.any (Tree.startsNoBlock source)) :
    ∀ byte ∈ (trimmedLine first ++ [newline]).head?, Opening.startsNoBlock byte := by
  obtain ⟨head, rest, hcontent, hhead⟩ := Printer.exists_content_cons hplain
  have hfirst : first = [] ∨ ∃ line, first = head :: line := by
    obtain ⟨line, lines, hrest⟩ := List.exists_cons_of_ne_nil (List.splitOn_ne_nil newline rest)
    rw [hcontent, List.splitOn_cons_eq_if_modifyHead, hrest] at hlines
    split at hlines
    · exact .inl (List.cons.inj hlines).1.symm
    · exact .inr ⟨line, (List.cons.inj hlines).1.symm⟩
  obtain ⟨cut, hcut⟩ := Utf8.trimmedLine_prefix first
  intro byte hbyte
  cases htrimmed : trimmedLine first with
  | nil =>
      rw [htrimmed] at hbyte
      cases hbyte
      rfl
  | cons start trimmed =>
      rw [htrimmed] at hbyte hcut
      cases hbyte
      rcases hfirst with rfl | ⟨line, rfl⟩
      · cases hcut
      · rw [(List.cons.inj hcut).1]
        exact hhead

/-- A heading with an underline is written as the lines of its content and the line below. A
reader finds the start of another block in the first of them exactly if it starts like one, and
it does not if the heading begins with a link, an image, an autolink, or a text that does not
begin with the sign of a block. -/
theorem walk_underlined_startsBlock_iff (config : Config) {source : Bytes} {document : Document}
    {id : NodeId} {label : Label} {children : List Tree} {level : Nat} {state : RenderState}
    (hholds : document.Holds (.node label children) id) (helement : label.element = .heading level)
    (hmarkdown : Tree.areMarkdown .heading children)
    (hunderlined : isUnderlined ⟨source, document, config⟩ id level)
    (hfree : state.writer.Free) (hbuffer : state.writer.buffer = [])
    (hspan : state.codeSpan = none) :
    let scene : Scene := ⟨source, document, config⟩
    ∃ first later,
      (Printer.content source children).splitOn newline = first :: later ∧
      document.walk ((Renderer.standard config).visit scene) id state = .ok .proceed { state with
        writer := state.writer.deliver (Printer.separation (scene.previousKind id) label ++
          first :: (later ++ [Printer.underline config source label level])) [] } ∧
      let line := Chars.firstLine (trimmedLine first ++ [newline])
      (∀ text, first = Utf8.encode text → (∀ c ∈ text, isLineEnd c = false) →
        line.text = dropTrailing isBlank text ++ ['\n']) ∧
      (Opening.startsBlock (Cursor.ofLine line) ↔ Opening.LineStartsBlock line.text) ∧
      (children.head?.any (Tree.startsNoBlock source) →
        Opening.startsBlock (Cursor.ofLine line) = false) := by
  intro scene
  obtain ⟨first, later, hlines⟩ :=
    List.exists_cons_of_ne_nil (List.splitOn_ne_nil newline (Printer.content source children))
  obtain ⟨depth, hdepth⟩ : ∃ depth, document.size = depth + 1 :=
    Nat.exists_eq_add_one.mpr (Nat.lt_of_le_of_lt (Nat.zero_le id) hholds.lt_size)
  have hheight : Tree.heightOfRow children ≤ depth := by
    have hheight := hholds.height_le_size
    rw [hdepth] at hheight
    exact Nat.le_of_succ_le_succ hheight
  obtain ⟨script, hwalk, hemits⟩ := @prints_heading scene config id label children depth state level
    hholds helement (by rw [helement]; exact hmarkdown) hheight hspan
  rw [@isUnderlined_eq scene id label children hholds] at hunderlined
  rw [linesOf_heading hunderlined, hlines] at hemits
  have hrun := hemits state.writer hfree hbuffer
  refine ⟨first, later, hlines, ?_, ?_, ?_, ?_⟩
  · rw [Document.walk, hdepth]
    exact (hwalk state.writer _ hfree.sound hrun).1 (hfree.deliver _ _).sound
  · rintro text rfl htext
    exact text_firstLine_trimmed htext
  · exact Opening.startsBlock_iff (Chars.not_isLineEnd_firstLine _)
  · intro hplain
    rw [← Bool.not_eq_true, Opening.startsBlock_iff (Chars.not_isLineEnd_firstLine _)]
    exact Opening.not_lineStartsBlock (head_trimmed hlines hplain)

/-- The document holds the heading and its text. -/
theorem documentOf_holds (level : Nat) (text : String) :
    (documentOf level text).Holds
      (.node { element := .heading level } [.node { element := .plainText (.owned text) } []]) 1 :=
  have hsize : ∀ id < 3, id < (documentOf level text).size := fun _ hid => hid
  ⟨hsize 1 (by decide), rfl, [2], ⟨rfl, rfl, rfl, rfl, rfl⟩, 2, [], rfl,
    ⟨hsize 2 (by decide), rfl, [], ⟨rfl, rfl⟩, rfl⟩, rfl⟩

/-- A dash within the text starts no item. -/
theorem walk_underlined_startsBlock_iff_dash :
    let config : Config := { headingStyle := .setext }
    let document := documentOf 2 "a - b "
    let scene : Scene := ⟨[], document, config⟩
    let state : RenderState :=
      { writer := (LineWriter.onto .unlimited).pushLead (Utf8.ofString "> ") .all }
    let children : List Tree := [.node { element := .plainText (.owned "a - b ") } []]
    document.Holds (.node { element := .heading 2 } children) 1 ∧
      Tree.areMarkdown .heading children ∧ isUnderlined scene 1 2 ∧ state.writer.Free ∧
      state.writer.buffer = [] ∧ state.codeSpan = none ∧
      children.head?.any (Tree.startsNoBlock []) ∧
      ∃ after, document.walk ((Renderer.standard config).visit scene) 1 state =
          .ok .proceed after ∧
        after.writer.sink.received = #[Utf8.ofString "> a - b\n", Utf8.ofString "> ---\n"] ∧
        Opening.startsBlock (Cursor.ofLine (Chars.firstLine (Utf8.ofString "a - b\n"))) =
          false := by
  intro config document scene state children
  have hholds := documentOf_holds 2 "a - b "
  have hmarkdown : Tree.areMarkdown .heading children := by decide
  have hfree : state.writer.Free := ⟨rfl, rfl⟩
  have hplain : children.head?.any (Tree.startsNoBlock []) := by decide +kernel
  obtain ⟨first, later, hlines, hwalk, -, -, hstarts⟩ :=
    @walk_underlined_startsBlock_iff config [] document 1 _ children 2 state hholds rfl hmarkdown
      rfl hfree rfl rfl
  have hcontent : (Printer.content [] children).splitOn newline = [Utf8.ofString "a - b "] := by
    decide +kernel
  obtain ⟨rfl, rfl⟩ := List.cons.inj (hlines.symm.trans hcontent)
  have hwritten : trimmedLine (Utf8.ofString "a - b ") ++ [newline] = Utf8.ofString "a - b\n" := by
    decide +kernel
  rw [← hwritten]
  exact ⟨hholds, hmarkdown, rfl, hfree, rfl, rfl, hplain, _, hwalk, by decide +kernel,
    hstarts hplain⟩

/-- A heading whose text begins with the sign of a block quote becomes one. -/
theorem not_forall_underlined_startsNoBlock : ¬ ∀ (config : Config) (level : Nat) (text : String)
    (written : Bytes), isUnderlined ⟨[], documentOf level text, config⟩ 1 level →
    ((Renderer.standard config).render .unlimited []
      (documentOf level text)).2.writer.sink.content = written →
    Opening.startsBlock (Cursor.ofLine (Chars.firstLine written)) = false := by
  intro hall
  have hnone := hall { headingStyle := .setext } 1 "> a" (Utf8.ofString "> a\n===\n") rfl
    (by decide +kernel)
  exact absurd hnone (by decide +kernel)

end Heading

end MarkdownFormat
