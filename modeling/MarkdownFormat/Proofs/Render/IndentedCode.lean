/-
# Indented code in containers

A line of indented code stands behind the unit of indentation, and that behind what the
containers put before the line. The printer is run once more, with the lines of indented code
told apart from the others. Four spaces are four columns wherever they stand. But a tab ends
at a multiple of four columns, and so is four columns wide only if the containers end at one.
-/

import MarkdownFormat.Proofs.Render.MarkedRules
import MarkdownFormat.Reader.Cursor

namespace MarkdownFormat

/-- The column behind some bytes of ASCII that stand from a column on. -/
def columnBehind (column : Nat) (bytes : Bytes) : Nat :=
  bytes.foldl (fun column byte => column + columnsOf column (Char.ofNat byte.toNat)) column

/-- The column behind some bytes is where the next start. -/
theorem columnBehind_append (column : Nat) (first second : Bytes) :
    columnBehind column (first ++ second) = columnBehind (columnBehind column first) second :=
  List.foldl_append

/-- Each byte takes the columns that it has where it stands. -/
theorem columnBehind_cons (column : Nat) (byte : UInt8) (rest : Bytes) :
    columnBehind column (byte :: rest) =
      columnBehind (column + columnsOf column (Char.ofNat byte.toNat)) rest :=
  rfl

/-- Whatever is no tab takes one column. -/
theorem columnsOf_of_ne_tab (column : Nat) {byte : UInt8} (htab : byte ≠ 0x09) :
    columnsOf column (Char.ofNat byte.toNat) = 1 := by
  refine if_neg fun hsame => htab ?_
  have hvalid : byte.toNat.isValidChar := .inl (Nat.lt_trans byte.toNat_lt (by decide))
  have hnat := congrArg Char.toNat hsame
  rw [Char.ofNat, dif_pos hvalid] at hnat
  exact UInt8.toNat_inj.mp hnat

/-- Without tabs, each byte takes up one column. -/
theorem columnBehind_of_notMem {bytes : Bytes} (htab : 0x09 ∉ bytes) (column : Nat) :
    columnBehind column bytes = column + bytes.length := by
  induction bytes generalizing column with
  | nil => rfl
  | cons byte rest ih =>
      obtain ⟨hbyte, hrest⟩ := not_or.mp (mt List.mem_cons.mpr htab)
      rw [columnBehind_cons, columnsOf_of_ne_tab column (Ne.symm hbyte), ih hrest, List.length_cons]
      omega

namespace IndentStyle

/-- The unit of indentation as it is written. -/
def bytes (style : IndentStyle) : Bytes :=
  Utf8.ofString style.unit

/-- Four spaces are four columns, and a tab is what is left up to the next multiple of four. -/
theorem columnBehind_bytes (style : IndentStyle) (column : Nat) :
    columnBehind column style.bytes =
      column + match style with
        | .spaces => 4
        | .tabs => 4 - column % 4 := by
  cases style with
  | spaces =>
      have hspaces : bytes .spaces = List.replicate 4 0x20 := by decide +kernel
      rw [hspaces, columnBehind_of_notMem (by decide), List.length_replicate]
  | tabs =>
      have htab : bytes .tabs = [0x09] := by decide +kernel
      rw [htab]
      rfl

/-- The unit is four columns wide just if it is made of spaces or starts at a multiple of four. -/
theorem four_le_columnBehind_iff (style : IndentStyle) (column : Nat) :
    column + 4 ≤ columnBehind column style.bytes ↔ style = .spaces ∨ column % 4 = 0 := by
  rw [columnBehind_bytes]
  cases style with
  | spaces => simp
  | tabs =>
      simp only [reduceCtorEq, false_or, Nat.add_le_add_iff_left]
      omega

end IndentStyle

namespace Printer

/-- A line, and apart from it what containers put before it and whether it is indented code. -/
structure PlacedLine where
  /-- What stands before the line, with the outermost container first. -/
  pieces : List Piece
  isCode : Bool
  text : Bytes

namespace PlacedLine

/-- A line outside all containers, other than indented code. -/
def plain (text : Bytes) : PlacedLine :=
  ⟨[], false, text⟩

/-- A line of indented code outside all containers. -/
def code (text : Bytes) : PlacedLine :=
  ⟨[], true, text⟩

/-- The line with one more piece before it. -/
def behind (piece : Piece) (line : PlacedLine) : PlacedLine :=
  { line with pieces := piece :: line.pieces }

/-- What containers put before the line, as it is written. -/
def front (line : PlacedLine) : Bytes :=
  line.pieces.flatMap Piece.bytes

/-- The line as it is written. -/
def bytes (style : IndentStyle) (line : PlacedLine) : Bytes :=
  line.front ++ ((if line.isCode then style.bytes else []) ++ line.text)

/-- A piece stands in front of all bytes of a line. -/
theorem bytes_behind (style : IndentStyle) (piece : Piece) (line : PlacedLine) :
    (line.behind piece).bytes style = piece.bytes ++ line.bytes style :=
  List.append_assoc _ _ _

end PlacedLine

section Placed

variable (config : Config) (source : Bytes)

/-- The lines of an item: its marker before the first, space before the others. -/
def placedItem (marker : UInt8) (ordered : Bool) (number : Nat) :
    List PlacedLine → List PlacedLine
  | [] => []
  | line :: lines =>
      line.behind (.marker marker ordered number) ::
        lines.map (.behind
          (.space (config.effectiveNestedListLength * (itemPrefix marker ordered number).length)))

mutual
/-- The lines of a block, with what containers put before them, and with indented code told
apart. -/
def placed (previous : Option Kind) : Tree → List PlacedLine
  | .node label children =>
    match label.element with
    | .codeBlock => (contentLines source label.lines).map .code
    | .blockquote => (placedRow (fun _ => id) 0 none children).map (.behind .quote)
    | .list marker ordered start =>
        placedRow (placedItem config marker ordered) start none children
    | .listItem =>
        if children.isEmpty then [.plain []] else placedRow (fun _ => id) 0 none children
    | .document | .custom _ _ => placedRow (fun _ => id) 0 none children
    | _ => (block config source previous (.node label children)).map .plain

/-- The lines of blocks that follow one another, with what containers put before them. -/
def placedRow (dress : Nat → List PlacedLine → List PlacedLine) (number : Nat)
    (previous : Option Kind) : List Tree → List PlacedLine
  | [] => []
  | tree :: rest =>
      (separation previous tree.label).map .plain ++ dress number (placed previous tree) ++
        placedRow dress (number + 1) (some tree.kind) rest
end

/-- The lines of a tree whose topmost node is a block. -/
def placedPrint (previous : Option Kind) (tree : Tree) : List PlacedLine :=
  (separation previous tree.label).map .plain ++ placed config source previous tree

variable {config source}

/-- Lines without indented code are their bytes. -/
theorem map_bytes_plain (style : IndentStyle) (lines : List Bytes) :
    (lines.map PlacedLine.plain).map (PlacedLine.bytes style) = lines := by
  rw [List.map_map]
  exact List.map_id lines

/-- A piece stands in front of each line. -/
theorem map_bytes_placed_behind (style : IndentStyle) (piece : Piece) (lines : List PlacedLine) :
    (lines.map (PlacedLine.behind piece)).map (PlacedLine.bytes style) =
      (lines.map (PlacedLine.bytes style)).map (piece.bytes ++ ·) := by
  rw [List.map_map, List.map_map]
  exact List.map_congr_left fun line _ => line.bytes_behind style piece

/-- An item puts its marker and its indent in front of each line. -/
theorem map_bytes_placedItem (style : IndentStyle) (marker : UInt8) (ordered : Bool)
    (number : Nat) (lines : List PlacedLine) :
    (placedItem config marker ordered number lines).map (PlacedLine.bytes style) =
      item config marker ordered number (lines.map (PlacedLine.bytes style)) := by
  cases lines with
  | nil => rfl
  | cons line lines =>
      rw [placedItem, List.map_cons, map_bytes_placed_behind, PlacedLine.bytes_behind]
      rfl

/-- Block by block, the lines are those of the printer. -/
theorem map_bytes_placed_rows :
    (∀ (tree : Tree) (previous : Option Kind),
      (placed config source previous tree).map (PlacedLine.bytes config.indentStyle) =
        block config source previous tree) ∧
    ∀ (trees : List Tree) (dress : Nat → List PlacedLine → List PlacedLine)
      (dressBytes : Nat → List Bytes → List Bytes) (number : Nat) (previous : Option Kind),
      (∀ number lines, (dress number lines).map (PlacedLine.bytes config.indentStyle) =
        dressBytes number (lines.map (PlacedLine.bytes config.indentStyle))) →
      (placedRow config source dress number previous trees).map
          (PlacedLine.bytes config.indentStyle) =
        row config source dressBytes number previous trees := by
  apply Tree.rows_induction
  · intro label children ih previous
    have hplain : (placedRow config source (fun _ => id) 0 none children).map
        (PlacedLine.bytes config.indentStyle) = row config source plain 0 none children :=
      ih _ _ 0 none fun _ _ => rfl
    rw [placed]
    split
    case h_1 helement =>
      rw [block, helement, List.map_map]
      rfl
    case h_2 helement =>
      rw [map_bytes_placed_behind, hplain, block, helement]
      rfl
    case h_3 marker ordered start helement =>
      rw [block, helement]
      exact ih _ _ start none (map_bytes_placedItem config.indentStyle marker ordered)
    case h_4 helement =>
      rw [block, helement, ← hplain]
      exact apply_ite (List.map (PlacedLine.bytes config.indentStyle)) _ [PlacedLine.plain []] _
    case h_5 helement => rw [hplain, block, helement]
    case h_6 helement => rw [hplain, block, helement]
    case h_7 => exact map_bytes_plain _ _
  · intro dress dressBytes number previous hdress
    rfl
  · intro tree rest ihTree ihRest dress dressBytes number previous hdress
    simp only [placedRow, row, List.map_append, map_bytes_plain, hdress, ihTree]
    rw [ihRest dress dressBytes _ _ hdress]

/-- So they are for a whole tree. -/
theorem map_bytes_placedPrint {tree : Tree} (hblock : tree.kind.isBlock)
    (previous : Option Kind) :
    (placedPrint config source previous tree).map (PlacedLine.bytes config.indentStyle) =
      print config source previous tree := by
  rw [placedPrint, print, if_pos hblock, List.map_append, map_bytes_plain,
    map_bytes_placed_rows.1]

namespace Piece

/-- Whether the marker, if the piece is one, is an ASCII character. -/
def isPlain : Piece → Bool
  | .marker bullet _ _ => bullet < 0x80
  | _ => true

/-- Then the piece is text. -/
theorem isText_bytes {piece : Piece} (hplain : piece.isPlain) : Utf8.IsText piece.bytes := by
  cases piece with
  | quote => exact Utf8.isText_encode _
  | marker bullet ordered number =>
      have hbullet : bullet < 0x80 := of_decide_eq_true hplain
      have hsign : Utf8.IsText [bullet, 0x20] :=
        Utf8.isText_of_ascii
          (List.forall_mem_cons.mpr ⟨hbullet, List.forall_mem_singleton.mpr (by decide)⟩)
      refine .append ?_ hsign
      split
      · exact Utf8.isText_encode _
      · exact Utf8.isText_encode []
  | space width =>
      exact Utf8.isText_of_ascii fun byte hbyte => by rw [List.eq_of_mem_replicate hbyte]; decide

end Piece

/-- Whether all markers before the line are ASCII characters. -/
def PlacedLine.isPlain (line : PlacedLine) : Bool :=
  line.pieces.all Piece.isPlain

/-- Then all that stands before the line is text. -/
theorem PlacedLine.isText_front {line : PlacedLine} (hplain : line.isPlain) :
    Utf8.IsText line.front := by
  rw [front, List.flatMap_def]
  refine .flatten fun part hpart => ?_
  obtain ⟨piece, hpiece, rfl⟩ := List.mem_map.mp hpart
  exact Piece.isText_bytes (List.all_eq_true.mp hplain piece hpiece)

/-- It holds of a line behind one more such piece. -/
theorem PlacedLine.isPlain_behind {piece : Piece} (hpiece : piece.isPlain) {line : PlacedLine}
    (hline : line.isPlain) : (line.behind piece).isPlain := by
  show (piece :: line.pieces).all _ = true
  rw [List.all_cons, hpiece]
  exact hline

theorem isPlain_placedItem {marker : UInt8} (hmarker : marker < 0x80) (ordered : Bool)
    (number : Nat) {lines : List PlacedLine} (hlines : ∀ line ∈ lines, line.isPlain) :
    ∀ line ∈ placedItem config marker ordered number lines, line.isPlain := by
  cases lines with
  | nil => exact hlines
  | cons line lines =>
      obtain ⟨hline, hrest⟩ := List.forall_mem_cons.mp hlines
      have hpiece : (Piece.marker marker ordered number).isPlain := decide_eq_true hmarker
      refine List.forall_mem_cons.mpr ⟨PlacedLine.isPlain_behind hpiece hline, ?_⟩
      exact List.forall_mem_map.mpr fun other hother =>
        PlacedLine.isPlain_behind rfl (hrest other hother)

/-- It holds of lines without pieces. -/
theorem isPlain_plain (lines : List Bytes) : ∀ line ∈ lines.map PlacedLine.plain, line.isPlain :=
  List.forall_mem_map.mpr fun _ _ => rfl

/-- Block by block, the markers of a document that a reader makes are ASCII. -/
theorem isPlain_placed_rows :
    (∀ (tree : Tree) (previous : Option Kind), tree.isMarkdown →
      ∀ line ∈ placed config source previous tree, line.isPlain) ∧
    ∀ (trees : List Tree) (parent : Kind) (dress : Nat → List PlacedLine → List PlacedLine)
      (number : Nat) (previous : Option Kind), Tree.areMarkdown parent trees →
      (∀ number {lines : List PlacedLine}, (∀ line ∈ lines, line.isPlain) →
        ∀ line ∈ dress number lines, line.isPlain) →
      ∀ line ∈ placedRow config source dress number previous trees, line.isPlain := by
  apply Tree.rows_induction
  · intro label children ih previous hmarkdown
    simp only [Tree.isMarkdown, Bool.and_eq_true] at hmarkdown
    obtain ⟨⟨-, hmarker⟩, hchildren⟩ := hmarkdown
    have hplain := ih _ (fun _ => id) 0 none hchildren fun _ _ hlines => hlines
    rw [placed]
    split
    case h_1 => exact List.forall_mem_map.mpr fun _ _ => rfl
    case h_2 =>
      exact List.forall_mem_map.mpr fun line hline =>
        PlacedLine.isPlain_behind rfl (hplain line hline)
    case h_3 marker ordered start helement =>
      rw [helement] at hmarker
      exact ih _ _ start none hchildren fun number _ hlines =>
        isPlain_placedItem (of_decide_eq_true hmarker) ordered number hlines
    case h_4 =>
      split
      · exact isPlain_plain [[]]
      · exact hplain
    case h_5 => exact hplain
    case h_6 => exact hplain
    case h_7 => exact isPlain_plain _
  · intro parent dress number previous _ _ line hline
    cases hline
  · intro tree rest ihTree ihRest parent dress number previous hmarkdown hdress
    simp only [Tree.areMarkdown, Bool.and_eq_true] at hmarkdown
    obtain ⟨⟨-, htree⟩, hrest⟩ := hmarkdown
    exact List.forall_mem_append.mpr ⟨List.forall_mem_append.mpr
      ⟨isPlain_plain _, hdress number (ihTree previous htree)⟩,
      ihRest parent dress _ _ hrest hdress⟩

/-- So they are for a whole tree. -/
theorem isPlain_placedPrint {tree : Tree} (hmarkdown : tree.isMarkdown) (previous : Option Kind) :
    ∀ line ∈ placedPrint config source previous tree, line.isPlain :=
  List.forall_mem_append.mpr ⟨isPlain_plain _, isPlain_placed_rows.1 tree previous hmarkdown⟩

/-- Of a line of code only blanks at its end are cut. -/
theorem PlacedLine.finished_code {line : PlacedLine} (hplain : line.isPlain) (hcode : line.isCode)
    (style : IndentStyle) (hsome : trimmedLine line.text ≠ []) :
    finished (line.bytes style) =
      line.front ++ style.bytes ++ trimmedLine line.text ++ [newline] := by
  have hfront : Utf8.IsText (line.front ++ style.bytes) :=
    (isText_front hplain).append (Utf8.isText_encode _)
  rw [finished, bytes, hcode, if_pos rfl, ← List.append_assoc,
    Utf8.trimmedLine_append_of_ne_nil hfront hsome]

end Placed

end Printer

namespace Renderer

open Printer

/-- Rendering delivers each line of indented code behind the unit of indentation, and that behind
what the containers put there, which is as wide as it is long. The code starts at least four
columns behind that just if the unit is made of spaces or what stands before it ends at a
multiple of four columns. -/
theorem render_indentedCode (config : Config) (source : Bytes) (sink : Sink) {document : Document}
    {tree : Tree} (hsink : sink.limit = none) (hholds : document.Holds tree Document.root)
    (hmarkdown : tree.isMarkdown) (hblock : tree.kind.isBlock) (hroot : tree.kind ≠ .listItem) :
    ∃ last lines, (standard config).render sink source document = (none, last) ∧
      lines = placedPrint config source
        ((document.node Document.root).previous.map document.kind) tree ∧
      last.writer.sink.received.toList = sink.received.toList ++
        lines.map (fun line => finished (line.bytes config.indentStyle)) ∧
      ∀ line ∈ lines, line.isCode →
        (trimmedLine line.text ≠ [] → finished (line.bytes config.indentStyle) =
          line.front ++ config.indentStyle.bytes ++ trimmedLine line.text ++ [newline]) ∧
        let stop := columnBehind 0 line.front
        let start := columnBehind 0 (line.front ++ config.indentStyle.bytes)
        (0x09 ∉ line.front → stop = line.front.length) ∧
        (config.indentStyle = .tabs → start = stop + (4 - stop % 4)) ∧
        (stop + 4 ≤ start ↔ config.indentStyle = .spaces ∨ stop % 4 = 0) := by
  obtain ⟨last, hrender, hreceived⟩ :=
    render_block config source sink hsink hholds hmarkdown hblock hroot
  rw [← map_bytes_placedPrint hblock, List.map_map] at hreceived
  refine ⟨last, _, hrender, rfl, hreceived, fun line hline hcode => ?_⟩
  have hplain := isPlain_placedPrint hmarkdown _ line hline
  refine ⟨PlacedLine.finished_code hplain hcode config.indentStyle, fun htab => ?_,
    fun htabs => ?_, ?_⟩
  · rw [columnBehind_of_notMem htab, Nat.zero_add]
  · rw [columnBehind_append, IndentStyle.columnBehind_bytes, htabs]
  · rw [columnBehind_append]
    exact config.indentStyle.four_le_columnBehind_iff _

/-- A quote with indented code, and a quote in a quote with more of it. -/
def quotedCode : Tree :=
  .node { element := .document } [
    .node { element := .blockquote } [
      .node { element := .codeBlock, lines := [.owned "a"] } []],
    .node { element := .blockquote, blankBefore := true } [
      .node { element := .blockquote } [
        .node { element := .codeBlock, lines := [.owned "b"] } []]]]

/-- A document that holds the quotes. -/
def quotedCodeDocument : Document :=
  ⟨#[{ element := .document, firstChild := some 1, lastChild := some 3 },
    { element := .blockquote, parent := some 0, firstChild := some 2, lastChild := some 2,
      next := some 3 },
    { element := .codeBlock, lines := [.owned "a"], parent := some 1 },
    { element := .blockquote, blankBefore := true, parent := some 0, firstChild := some 4,
      lastChild := some 4, previous := some 1 },
    { element := .blockquote, parent := some 3, firstChild := some 5, lastChild := some 5 },
    { element := .codeBlock, lines := [.owned "b"], parent := some 4 }]⟩

/-- The document is that of the tree. -/
theorem quotedCode_holds : quotedCodeDocument.Holds quotedCode Document.root := by
  have hfirst : quotedCodeDocument.Holds (.node { element := .blockquote } [
      .node { element := .codeBlock, lines := [.owned "a"] } []]) 1 :=
    ⟨by decide, rfl, [2], ⟨rfl, rfl, rfl, rfl, rfl⟩, 2, [], rfl,
      ⟨by decide, rfl, [], ⟨rfl, rfl⟩, rfl⟩, rfl⟩
  have hsecond : quotedCodeDocument.Holds (.node { element := .blockquote, blankBefore := true } [
      .node { element := .blockquote } [
        .node { element := .codeBlock, lines := [.owned "b"] } []]]) 3 :=
    ⟨by decide, rfl, [4], ⟨rfl, rfl, rfl, rfl, rfl⟩, 4, [], rfl,
      ⟨by decide, rfl, [5], ⟨rfl, rfl, rfl, rfl, rfl⟩, 5, [], rfl,
        ⟨by decide, rfl, [], ⟨rfl, rfl⟩, rfl⟩, rfl⟩, rfl⟩
  exact ⟨by decide, rfl, [1, 3], ⟨rfl, rfl, rfl, rfl, rfl, rfl, rfl, rfl⟩, 1, [3], rfl, hfirst,
    3, [], rfl, hsecond, rfl⟩

/-- Behind the signs of two quotes a tab is four columns wide, behind that of one it is not. -/
theorem render_indentedCode_quoted :
    Sink.unlimited.limit = none ∧ quotedCodeDocument.Holds quotedCode Document.root ∧
      quotedCode.isMarkdown ∧ quotedCode.kind.isBlock ∧ quotedCode.kind ≠ .listItem ∧
      ∃ last first second, (standard { indentStyle := .tabs }).render .unlimited []
          quotedCodeDocument = (none, last) ∧
        last.writer.sink.received.toList =
          [first ++ Utf8.ofString "\ta\n", [newline], second ++ Utf8.ofString "\tb\n"] ∧
        first = Utf8.ofString "> " ∧
        ¬ columnBehind 0 first + 4 ≤ columnBehind 0 (first ++ Utf8.ofString "\t") ∧
        second = Utf8.ofString "> > " ∧
        columnBehind 0 second + 4 ≤ columnBehind 0 (second ++ Utf8.ofString "\t") := by
  have hmarkdown : quotedCode.isMarkdown := by decide +kernel
  have hroot : quotedCode.kind ≠ .listItem := by decide
  obtain ⟨last, lines, hrender, hlines, hreceived, hcode⟩ := render_indentedCode
    { indentStyle := .tabs } [] .unlimited rfl quotedCode_holds hmarkdown rfl hroot
  have hprinted : lines = [⟨[.quote], true, [0x61]⟩, ⟨[], false, []⟩,
      ⟨[.quote, .quote], true, [0x62]⟩] :=
    hlines
  subst hprinted
  obtain ⟨hfirst, hrest⟩ := List.forall_mem_cons.mp hcode
  obtain ⟨-, hthird⟩ := List.forall_mem_cons.mp hrest
  obtain ⟨hsecond, -⟩ := List.forall_mem_cons.mp hthird
  obtain ⟨-, -, -, hfirstWide⟩ := hfirst rfl
  obtain ⟨-, -, -, hsecondWide⟩ := hsecond rfl
  exact ⟨rfl, quotedCode_holds, hmarkdown, rfl, hroot, last, _, _, hrender,
    hreceived.trans (by decide +kernel), by decide +kernel, mt hfirstWide.mp (by decide +kernel),
    by decide +kernel, hsecondWide.mpr (.inr (by decide +kernel))⟩

/-- In a quote, code behind a tab is only two columns in. -/
theorem not_forall_render_indentedCode :
    ¬ ∀ (config : Config) (source : Bytes) (sink : Sink) (document : Document) (tree : Tree),
      config.nestedListLength = 1 → sink.limit = none → document.Holds tree Document.root →
      tree.isMarkdown → tree.kind.isBlock → tree.kind ≠ .listItem →
      ∃ last lines, (standard config).render sink source document = (none, last) ∧
        lines = placedPrint config source
          ((document.node Document.root).previous.map document.kind) tree ∧
        last.writer.sink.received.toList = sink.received.toList ++
          lines.map (fun line => finished (line.bytes config.indentStyle)) ∧
        ∀ line ∈ lines, line.isCode → trimmedLine line.text ≠ [] →
          columnBehind 0 line.front + 4 ≤
            columnBehind 0 (line.front ++ config.indentStyle.bytes) := by
  intro hall
  have hmarkdown : quotedCode.isMarkdown := by decide +kernel
  have hroot : quotedCode.kind ≠ .listItem := by decide
  obtain ⟨-, lines, -, hlines, -, hcode⟩ := hall { indentStyle := .tabs } [] .unlimited
    quotedCodeDocument quotedCode rfl rfl quotedCode_holds hmarkdown rfl hroot
  let line : PlacedLine := ⟨[.quote], true, [0x61]⟩
  have hline : line ∈ lines := by
    rw [hlines]
    exact .head _
  exact absurd (hcode line hline rfl (by decide +kernel)) (by decide +kernel)

end Renderer

end MarkdownFormat
