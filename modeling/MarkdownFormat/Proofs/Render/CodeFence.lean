/-
# Fenced code read back

The fence around a code block is longer than any row of its character that a line of the
content starts with. So no line of the content ends the block for a reader, who gets the lines
as they were but for the blanks at their ends. On the first line, the info string stands right
behind the fence. A reader parts the two again unless the info string goes on with the
character of the fence. That is never a backtick, since an info string with a backtick gets a
fence of tildes. But it can be a tilde, if there is a backtick in the info string, too.
-/

import MarkdownFormat.Proofs.Event.Nesting
import MarkdownFormat.Proofs.Render.Printing
import MarkdownFormat.Proofs.Text.Boundary
import MarkdownFormat.Proofs.Text.Lossy

namespace MarkdownFormat

namespace CodeFence

/-- Whether a line ends a block with a fence of some length: it is a row of the mark that is no
shorter, behind three spaces at most and in front of nothing but spaces and tabs. -/
def closes (mark : UInt8) (count : Nat) (line : Bytes) : Bool :=
  let row := line.dropWhile (· = 0x20)
  (line.takeWhile (· = 0x20)).length ≤ 3 && count ≤ (row.takeWhile (· = mark)).length &&
    (row.dropWhile (· = mark)).all Spelling.isSpace

/-- The content of a block: the lines in front of the first one that ends it. -/
def readContent (mark : UInt8) (count : Nat) (lines : List Bytes) : List Bytes :=
  lines.takeWhile fun line => !closes mark count line

/-- The fence on the first line of a block: the longest row of the first byte. -/
def readFence (line : Bytes) : Bytes :=
  line.takeWhile (line.head? = some ·)

/-- The info string on the first line of a block: what follows the fence, without spaces and
tabs around it. -/
def readInfo (line : Bytes) : Bytes :=
  dropTrailing Spelling.isSpace ((line.dropWhile (line.head? = some ·)).dropWhile Spelling.isSpace)

/-- A row of marks ends a block with a fence that is no longer. -/
theorem closes_replicate {mark : UInt8} (hmark : mark ≠ 0x20) (count : Nat) :
    closes mark count (List.replicate count mark) := by
  simp [closes, hmark]

/-- Lines that do not end a block are read up to one that does. -/
theorem readContent_append_cons {mark : UInt8} {count : Nat} {lines : List Bytes}
    (hlines : ∀ line ∈ lines, closes mark count line = false) {last : Bytes}
    (hlast : closes mark count last) (rest : List Bytes) :
    readContent mark count (lines ++ last :: rest) = lines := by
  have hopen : ∀ line ∈ lines, (!closes mark count line) = true :=
    fun line hline => by rw [hlines line hline]; rfl
  rw [readContent, List.takeWhile_append_of_pos hopen,
    List.takeWhile_cons_of_neg (by simp [hlast]), List.append_nil]

/-- A row of marks and what follows it are read as fence and info string, but the fence takes
the marks that the rest starts with. -/
theorem read_replicate_append {mark : UInt8} {count : Nat} (hcount : 0 < count) (rest : Bytes) :
    readFence (List.replicate count mark ++ rest) =
        List.replicate count mark ++ rest.takeWhile (· = mark) ∧
      readInfo (List.replicate count mark ++ rest) =
        dropTrailing Spelling.isSpace ((rest.dropWhile (· = mark)).dropWhile Spelling.isSpace) := by
  have hhead : (List.replicate count mark ++ rest).head? = some mark := by
    rw [List.head?_append_of_ne_nil _ (by simpa using Nat.ne_of_gt hcount), List.head?_replicate,
      if_neg (Nat.ne_of_gt hcount)]
  have hsame : (fun byte => decide (some mark = some byte)) = (· = mark) := by
    simp only [Option.some.injEq, eq_comm]
  have hmarks : ∀ byte ∈ List.replicate count mark, decide (byte = mark) :=
    fun byte hbyte => decide_eq_true (List.eq_of_mem_replicate hbyte)
  rw [readFence, readInfo, hhead, hsame, List.takeWhile_append_of_pos hmarks,
    List.dropWhile_append_of_pos hmarks]
  exact ⟨rfl, rfl⟩

/-- The byte of the fence. -/
def mark (info : Bytes) : UInt8 :=
  (char info).toNat.toUInt8

/-- A fence is made of tildes if the info string has a backtick, and else of backticks. -/
theorem mark_cases (info : Bytes) :
    char info = '~' ∧ mark info = 0x7E ∧ 0x60 ∈ info ∨
      char info = backtick ∧ mark info = 0x60 ∧ 0x60 ∉ info := by
  by_cases hinfo : 0x60 ∈ info
  · simp [mark, char, hinfo]
  · simp [mark, char, hinfo]
    decide

/-- Neither is blank. -/
theorem isBlankByte_mark (info : Bytes) : isBlankByte (mark info) = false := by
  rcases mark_cases info with ⟨-, hmark, -⟩ | ⟨-, hmark, -⟩ <;> rw [hmark] <;> rfl

/-- A fence is a row of marks. -/
theorem encode_fence (info : Bytes) (lines : List Bytes) :
    Utf8.encode (fence info lines) = List.replicate (fence info lines).length (mark info) := by
  have hascii : (char info).toNat < 0x80 := by
    rcases mark_cases info with ⟨hchar, -⟩ | ⟨hchar, -⟩ <;> rw [hchar] <;> decide
  rw [fence, Utf8.encode_replicate hascii, List.length_replicate, mark]

/-- It has three at least. -/
theorem three_le_length_fence (info : Bytes) (lines : List Bytes) :
    3 ≤ (fence info lines).length := by
  rw [fence, List.length_replicate]
  exact Nat.le_max_left _ _

/-- No line starts with a row of marks as long as the fence. -/
theorem leadingRun_lt_length_fence {info line : Bytes} {lines : List Bytes} (hline : line ∈ lines) :
    leadingRun (mark info) line < (fence info lines).length := by
  rw [fence, List.length_replicate, List.foldl_max]
  have hle : leadingRun (mark info) line ≤ (lines.map (leadingRun (mark info))).max?.getD 0 :=
    List.le_max?_getD_of_mem (List.mem_map_of_mem hline)
  exact Nat.lt_of_lt_of_le (Nat.lt_succ_of_le (Nat.le_trans hle (Nat.le_max_right _ _)))
    (Nat.le_max_right _ _)

/-- A line that ends a block starts with a row of marks as long as the fence, whatever was cut
at its end. -/
theorem le_leadingRun_of_closes {mark : UInt8} {count : Nat} {line : Bytes}
    (hmark : isBlankByte mark = false) (hcount : 0 < count) (hcloses : closes mark count line)
    (back : Bytes) : count ≤ leadingRun mark (line ++ back) := by
  simp only [closes, Bool.and_eq_true, decide_eq_true_eq] at hcloses
  obtain ⟨⟨-, hle⟩, -⟩ := hcloses
  let row := line.dropWhile (· = 0x20)
  let marks := row.takeWhile (· = mark)
  have hspaces : ∀ byte ∈ line.takeWhile (· = 0x20), isBlankByte byte := fun byte hbyte => by
    have hspace : byte = 0x20 := by simpa using List.mem_takeWhile_imp hbyte
    rw [hspace]
    rfl
  have hmarks : ∀ byte ∈ marks, decide (byte = mark) := fun byte hbyte => by
    simpa using List.mem_takeWhile_imp hbyte
  have hline : line ++ back =
      line.takeWhile (· = 0x20) ++ (marks ++ (row.dropWhile (· = mark) ++ back)) := by
    simp only [marks, row, ← List.append_assoc]
    rw [List.append_assoc (line.takeWhile _), List.takeWhile_append_dropWhile,
      List.takeWhile_append_dropWhile]
  have hrow : (marks ++ (row.dropWhile (· = mark) ++ back)).dropWhile isBlankByte =
      marks ++ (row.dropWhile (· = mark) ++ back) := by
    have hsome : marks ≠ [] := List.ne_nil_of_length_pos (Nat.lt_of_lt_of_le hcount hle)
    apply dropWhile_eq_self
    intro byte hbyte
    rw [List.head?_append_of_ne_nil _ hsome] at hbyte
    rw [of_decide_eq_true (hmarks byte (List.mem_of_head? hbyte)), hmark]
  rw [leadingRun, hline, List.dropWhile_append_of_pos hspaces, hrow,
    List.takeWhile_append_of_pos hmarks, List.length_append]
  exact Nat.le_trans hle (Nat.le_add_right _ _)

/-- The content lines of a block that holds a text. -/
def codeLines (text : List Char) : List Value :=
  (cutAfter (· == '\n') text).map fun line => .owned (String.ofList line)

/-- The lines of a text without the blanks at their ends. -/
def trimmedLines (text : List Char) : List Bytes :=
  (cutAfter (· == '\n') text).map fun line => Utf8.encode (dropTrailing isBlank line)

/-- The fence around a text. -/
def around (info : String) (text : List Char) : Bytes :=
  Utf8.encode (fence (Utf8.ofString info) ((cutAfter (· == '\n') text).map Utf8.encode))

/-- The newlines of a text are those of its bytes. -/
theorem sameNewlines (text : List Char) : SameMarks newline '\n' (Utf8.encode text) text :=
  Utf8.sameMarks_encode (by decide) (by decide) text

/-- The fence depends on the info string and the text alone. -/
theorem fence_codeLines (source : Bytes) (info : String) (text : List Char) :
    Printer.fence source (if info = "" then none else some (.owned info)) (codeLines text) =
      around info text := by
  have hlines : (codeLines text).map (·.bytes source) =
      (cutAfter (· == '\n') text).map Utf8.encode := by
    rw [codeLines, List.map_map]
    refine List.map_congr_left fun line _ => ?_
    exact congrArg Utf8.encode String.toList_ofList
  rw [Printer.fence, hlines, around]
  split
  · next hinfo => rw [hinfo]; rfl
  · rfl

/-- It is a row of marks. -/
theorem around_eq (info : String) (text : List Char) :
    around info text = List.replicate (around info text).length (mark (Utf8.ofString info)) := by
  rw [around, encode_fence, List.length_replicate]

/-- It has three at least. -/
theorem three_le_length_around (info : String) (text : List Char) :
    3 ≤ (around info text).length := by
  rw [around, encode_fence, List.length_replicate]
  exact three_le_length_fence _ _

/-- So it is not empty. -/
theorem around_ne_nil (info : String) (text : List Char) : around info text ≠ [] :=
  List.ne_nil_of_length_pos (Nat.lt_of_lt_of_le (Nat.succ_pos 2) (three_le_length_around info text))

/-- There is no newline in it. -/
theorem newline_notMem_around (info : String) (text : List Char) : newline ∉ around info text := by
  intro hmem
  rw [around_eq] at hmem
  have hblank := isBlankByte_mark (Utf8.ofString info)
  rw [← List.eq_of_mem_replicate hmem] at hblank
  cases hblank

/-- The first line of a block that holds a text. -/
def openingLine (info : String) (text : List Char) : Bytes :=
  around info text ++ Utf8.encode (dropTrailing isBlank info.toList)

/-- A fence ends without a blank. -/
theorem dropTrailing_fence (info : Bytes) (lines : List Bytes) :
    dropTrailing isBlank (fence info lines) = fence info lines := by
  have hmark : isBlank (char info) = false := by
    rcases mark_cases info with ⟨hchar, -⟩ | ⟨hchar, -⟩ <;> rw [hchar] <;> rfl
  have hlength := Nat.lt_of_lt_of_le (Nat.succ_pos 2) (three_le_length_fence info lines)
  rw [fence, List.length_replicate] at hlength
  rw [fence, ← List.nil_append (List.replicate _ _)]
  exact dropTrailing_append_replicate hmark [] hlength

/-- The opening line is cut at its end. -/
theorem trimmedLine_opening (info : String) (text : List Char) :
    trimmedLine (around info text ++ Utf8.ofString info) = openingLine info text := by
  rw [around, Utf8.ofString, ← Utf8.encode_append, Utf8.trimmedLine_encode,
    dropTrailing_append_of_eq_self (dropTrailing_fence _ _), Utf8.encode_append]
  rfl

/-- The closing line is not. -/
theorem trimmedLine_around (info : String) (text : List Char) :
    trimmedLine (around info text) = around info text := by
  rw [around, Utf8.trimmedLine_encode, dropTrailing_fence]

/-- If there is no newline in the info string, there is none in the opening line. -/
theorem newline_notMem_openingLine {info : String} (hinfo : '\n' ∉ info.toList)
    (text : List Char) : newline ∉ openingLine info text := by
  obtain ⟨back, hsplit, -⟩ := exists_dropTrailing_append isBlank info.toList
  rw [openingLine, List.mem_append, not_or, (sameNewlines _).mem_iff]
  exact ⟨newline_notMem_around info text,
    fun hmem => hinfo (hsplit ▸ List.mem_append_left back hmem)⟩

/-- A content line stands on one line of its own. -/
theorem exists_linesOf_encode {text part : List Char} (hpart : part ∈ cutAfter (· == '\n') text) :
    ∃ line, '\n' ∉ line ∧ linesOf (Utf8.encode part) = [Utf8.encode line] ∧
      dropTrailing isBlank part = dropTrailing isBlank line := by
  obtain ⟨line, hline, hends⟩ := exists_of_mem_cutAfter hpart
  have hnone : '\n' ∉ line := fun hmem => absurd (hline _ hmem) (by decide)
  have hbytes : newline ∉ Utf8.encode line := mt (sameNewlines line).mem_iff.mp hnone
  refine ⟨line, hnone, ?_⟩
  rcases hends with ⟨hsome, rfl⟩ | ⟨last, hlast, rfl⟩
  · have hencoded : Utf8.encode part ≠ [] := mt (sameNewlines part).eq_nil_iff.mp hsome
    exact ⟨linesOf_of_notMem hencoded hbytes, rfl⟩
  · rw [beq_iff_eq.mp hlast, Utf8.encode_append]
    refine ⟨?_, dropTrailing_append_of_forall (List.forall_mem_singleton.mpr rfl) line⟩
    have hsplit := splitLines_append_newline hbytes []
    show linesOf (Utf8.encode line ++ [newline]) = _
    simp [linesOf, hsplit, splitLines]

/-- What is left of the content lines when they are written. -/
theorem map_trimmedLine_contentLines (source : Bytes) (text : List Char) :
    (Printer.contentLines source (codeLines text)).map trimmedLine = trimmedLines text := by
  have hline : ∀ part ∈ cutAfter (· == '\n') text,
      (linesOf (Utf8.encode part)).map trimmedLine = [Utf8.encode (dropTrailing isBlank part)] := by
    intro part hpart
    obtain ⟨line, -, hlines, htrimmed⟩ := exists_linesOf_encode hpart
    rw [hlines, htrimmed, List.map_singleton, Utf8.trimmedLine_encode]
  rw [Printer.contentLines, codeLines, List.flatMap_map, List.map_flatMap, trimmedLines,
    List.map_eq_flatMap]
  refine List.flatMap_congr fun part hpart => ?_
  rw [← hline part hpart]
  exact congrArg (fun text => (linesOf (Utf8.encode text)).map trimmedLine) String.toList_ofList

/-- Nor is there one in a line of the text. -/
theorem newline_notMem_trimmedLines (text : List Char) :
    ∀ line ∈ trimmedLines text, newline ∉ line := by
  intro line hline
  obtain ⟨part, hpart, rfl⟩ := List.mem_map.mp hline
  obtain ⟨line, hnone, -, htrimmed⟩ := exists_linesOf_encode hpart
  obtain ⟨back, hsplit, -⟩ := exists_dropTrailing_append isBlank line
  rw [(sameNewlines _).mem_iff, htrimmed]
  exact fun hmem => hnone (hsplit ▸ List.mem_append_left back hmem)

/-- No line of the content ends a block with its fence. -/
theorem not_closes_trimmedLines (info : String) (text : List Char) :
    ∀ line ∈ trimmedLines text,
      closes (mark (Utf8.ofString info)) (around info text).length line = false := by
  intro line hline
  obtain ⟨part, hpart, rfl⟩ := List.mem_map.mp hline
  rw [around, encode_fence, List.length_replicate]
  by_contra hcloses
  rw [Bool.not_eq_false] at hcloses
  obtain ⟨back, hsplit, -⟩ := exists_dropTrailing_append isBlank part
  have hle := le_leadingRun_of_closes (isBlankByte_mark _)
    (Nat.lt_of_lt_of_le (Nat.succ_pos 2) (three_le_length_fence _ _)) hcloses (Utf8.encode back)
  rw [← Utf8.encode_append, ← hsplit] at hle
  exact Nat.not_lt.mpr hle (leadingRun_lt_length_fence (List.mem_map_of_mem hpart))

end CodeFence

/-- The document of a fenced code block and nothing else. -/
def Document.ofFencedCode (info : String) (text : List Char) (range : Segment) : Document :=
  ⟨#[{ element := .document, firstChild := some 1, lastChild := some 1 },
    { element := .fencedCodeBlock (if info = "" then none else some (.owned info)),
      parent := some 0, lines := CodeFence.codeLines text, range := some range }]⟩

/-- The tree of that document. -/
def Tree.ofFencedCode (info : String) (text : List Char) (range : Segment) : Tree :=
  .node { element := .document } [
    .node { element := .fencedCodeBlock (if info = "" then none else some (.owned info)),
            lines := CodeFence.codeLines text, range := some range } []]

/-- The document holds the code block. -/
theorem Document.ofFencedCode_holds (info : String) (text : List Char) (range : Segment) :
    (ofFencedCode info text range).Holds (.ofFencedCode info text range) root :=
  ⟨Nat.zero_lt_two, rfl, [1], ⟨rfl, rfl, rfl, rfl, rfl⟩, 1, [], rfl,
    ⟨Nat.one_lt_two, rfl, [], ⟨rfl, rfl⟩, rfl⟩, rfl⟩

/-- Texts in a row. -/
def Passage.ofTexts (texts : List (String × Segment)) : List Passage :=
  texts.map fun (content, range) => .event ⟨.text content, range⟩

namespace Assembly

variable (source : Bytes) (info : String) (opening closing : Segment)

/-- The start of a code block adds it, without content. -/
theorem document_opened_fencedCode :
    (take source {} ⟨.opened (.fencedCode info), opening⟩).document =
      .ofFencedCode info [] opening := by
  cbv

/-- The end of the block gives it its lines. -/
theorem document_closed_fencedCode {a : Assembly} {text : List Char}
    (hdocument : a.document = .ofFencedCode info [] opening) (hopenNodes : a.openNodes = [1])
    (hmemory : a.memory = (none, some text, [], false)) :
    (a.take source ⟨.closed .codeBlock, closing⟩).document = .ofFencedCode info text opening ∧
      (a.take source ⟨.closed .codeBlock, closing⟩).astray = false := by
  cases a
  rw [memory_eq_iff] at hmemory
  obtain ⟨rfl, rfl, rfl, rfl⟩ := hmemory
  subst hdocument hopenNodes
  simp only [take, closed]
  rw [closeTextBlock, if_neg]
  · simp only [finish]
    split
    · exact ⟨rfl, rfl⟩
    · exact ⟨rfl, rfl⟩
  · exact Element.noConfusion

end Assembly

/-- What a reader reports of a fenced code block becomes that block, wherever its parts are. -/
theorem Document.ofEvents?_fencedCode (source : Bytes) (info : String) (opening closing : Segment)
    (texts : List (String × Segment)) :
    ofEvents? source
        (Passage.construct (.fencedCode info) opening closing (Passage.ofTexts texts)).events =
      some (ofFencedCode info (texts.flatMap (·.1.toList)) opening) := by
  have hadmits : (Passage.ofTexts texts).all ((Tag.fencedCode info).admits ·.first) := by
    rw [Passage.ofTexts, List.all_map, List.all_eq_true]
    exact fun _ _ => rfl
  have hcode : (Passage.ofTexts texts).flatMap Passage.characters =
      texts.flatMap (·.1.toList) := by
    rw [Passage.ofTexts, List.flatMap_map]
    rfl
  let opened := Assembly.take source {} ⟨.opened (.fencedCode info), opening⟩
  have hcollecting : opened.memory = (none, some [], [], false) := rfl
  obtain ⟨hdocument, hopenNodes, hmemory⟩ :=
    @Assembly.foldl_take_code opened (.fencedCode info) source rfl _ hadmits _ hcollecting
  rw [hcode, List.nil_append] at hmemory
  obtain ⟨hclosed, hastray⟩ := Assembly.document_closed_fencedCode source info opening closing
    (hdocument.trans (Assembly.document_opened_fencedCode source info opening)) hopenNodes hmemory
  have hevents : Assembly.ofEvents source
      (Passage.construct (.fencedCode info) opening closing (Passage.ofTexts texts)).events =
      ((Passage.eventsOfRow (Passage.ofTexts texts)).foldl (Assembly.take source) opened).take
        source ⟨.closed .codeBlock, closing⟩ := by
    rw [Passage.events, Assembly.ofEvents, List.foldl_cons, List.foldl_append]
    rfl
  rw [ofEvents?, hevents, hclosed, hastray]
  rfl

namespace CodeFence

/-- What is printed of a fenced code block. -/
theorem print_ofFencedCode (config : Config) (source : Bytes) {info : String}
    (hinfo : '\n' ∉ info.toList) (text : List Char) (range : Segment) :
    Printer.print config source none (.ofFencedCode info text range) =
      (around info text ++ Utf8.ofString info) ::
        (Printer.contentLines source (codeLines text) ++ [around info text]) := by
  have hline : linesOf (around info text ++ Utf8.ofString info) =
      [around info text ++ Utf8.ofString info] := by
    have hnone : newline ∉ around info text ++ Utf8.ofString info := by
      rw [List.mem_append, not_or]
      exact ⟨newline_notMem_around info text, mt (sameNewlines info.toList).mem_iff.mp hinfo⟩
    rw [linesOf, splitLines_of_notMem hnone, if_neg]
    · rfl
    · exact List.append_ne_nil_of_left_ne_nil (around_ne_nil info text) _
  have hbytes : ((if info = "" then none else some (Value.owned info)).map
      (·.bytes source)).getD [] = Utf8.ofString info := by
    split
    · next hempty => rw [hempty]; rfl
    · rfl
  simp [Printer.print, Tree.ofFencedCode, Printer.block, Printer.row, Printer.separation,
    Printer.plain, Tree.kind, Tree.label, Element.kind, Kind.isBlock, fence_codeLines, hbytes,
    hline]

/-- A fenced code block is written with its fence on both sides of its lines, and the info
string behind the first one. -/
theorem render_ofFencedCode (config : Config) (source : Bytes) {info : String}
    (hinfo : '\n' ∉ info.toList) (text : List Char) (range : Segment) :
    ∃ last, (Renderer.standard config).render .unlimited source
        (.ofFencedCode info text range) = (none, last) ∧
      splitLines last.writer.sink.content =
        (openingLine info text :: (trimmedLines text ++ [around info text]), []) := by
  have hmarkdown : (Tree.ofFencedCode info text range).isMarkdown := rfl
  obtain ⟨last, hrender, hreceived⟩ := Renderer.render_block config source .unlimited rfl
    (Document.ofFencedCode_holds info text range) hmarkdown rfl Kind.noConfusion
  have hprevious : ((Document.ofFencedCode info text range).node Document.root).previous = none :=
    rfl
  rw [hprevious, Option.map_none, print_ofFencedCode config source hinfo] at hreceived
  refine ⟨last, hrender, ?_⟩
  have hlines : ((around info text ++ Utf8.ofString info) ::
      (Printer.contentLines source (codeLines text) ++ [around info text])).map trimmedLine =
      openingLine info text :: (trimmedLines text ++ [around info text]) := by
    rw [List.map_cons, List.map_append, map_trimmedLine_contentLines, List.map_singleton,
      trimmedLine_around, trimmedLine_opening]
  have hnone : ∀ line ∈ openingLine info text :: (trimmedLines text ++ [around info text]),
      newline ∉ line := by
    rw [List.forall_mem_cons, List.forall_mem_append, List.forall_mem_singleton]
    exact ⟨newline_notMem_openingLine hinfo text, newline_notMem_trimmedLines text,
      newline_notMem_around info text⟩
  have hcontent : last.writer.sink.content = (((around info text ++ Utf8.ofString info) ::
      (Printer.contentLines source (codeLines text) ++ [around info text])).map
        finished).flatten := congrArg List.flatten hreceived
  rw [hcontent, splitLines_flatten_finished (by rwa [hlines]), hlines]

/-- A fenced code block is not closed early: its lines are read back, but for the blanks at
their ends. -/
theorem render_fencedCode_content (config : Config) (source : Bytes) {info : String}
    (hinfo : '\n' ∉ info.toList) (opening closing : Segment) (texts : List (String × Segment)) :
    let lines := trimmedLines (texts.flatMap (·.1.toList))
    ∃ doc last mark count,
      Document.ofEvents? source (Passage.construct (.fencedCode info) opening closing
        (Passage.ofTexts texts)).events = some doc ∧
      (Renderer.standard config).render .unlimited source doc = (none, last) ∧
      (mark = 0x60 ∨ mark = 0x7E) ∧ 3 ≤ count ∧
      let fence := List.replicate count mark
      splitLines last.writer.sink.content =
        (trimmedLine (fence ++ Utf8.ofString info) :: (lines ++ [fence]), []) ∧
      (∀ line ∈ lines, closes mark count line = false) ∧
      readContent mark count (lines ++ [fence]) = lines := by
  let text := texts.flatMap (·.1.toList)
  obtain ⟨last, hrender, hlines⟩ := render_ofFencedCode config source hinfo text opening
  have hmark : mark (Utf8.ofString info) = 0x60 ∨ mark (Utf8.ofString info) = 0x7E := by
    rcases mark_cases (Utf8.ofString info) with ⟨-, hmark, -⟩ | ⟨-, hmark, -⟩
    · exact .inr hmark
    · exact .inl hmark
  have hspace : mark (Utf8.ofString info) ≠ 0x20 := by
    rcases hmark with hmark | hmark <;> rw [hmark] <;> decide
  have hopen := not_closes_trimmedLines info text
  rw [← trimmedLine_opening, around_eq] at hlines
  exact ⟨_, last, mark (Utf8.ofString info), (around info text).length,
    Document.ofEvents?_fencedCode source info opening closing texts, hrender, hmark,
    three_le_length_around info text, hlines, hopen,
    readContent_append_cons hopen (closes_replicate hspace _) []⟩

/-- Lines that look like fences, in two texts. -/
theorem render_fencedCode_content_fences :
    let texts : List (String × Segment) := [("```\n  ``", ⟨5, 13⟩), ("`` \t\nx", ⟨13, 19⟩)]
    let lines := [Utf8.ofString "```", Utf8.ofString "  ````", Utf8.ofString "x"]
    '\n' ∉ "c".toList ∧ ∃ doc last mark count,
      Document.ofEvents? [] (Passage.construct (.fencedCode "c") ⟨0, 5⟩ ⟨0, 19⟩
        (Passage.ofTexts texts)).events = some doc ∧
      (Renderer.standard {}).render .unlimited [] doc = (none, last) ∧ 3 ≤ count ∧
      let fence := List.replicate count mark
      splitLines last.writer.sink.content =
        (trimmedLine (fence ++ Utf8.ofString "c") :: (lines ++ [fence]), []) ∧
      readContent mark count (lines ++ [fence]) = lines := by
  intro texts lines
  have hinfo : '\n' ∉ "c".toList := by decide
  have htrimmed : trimmedLines (texts.flatMap (·.1.toList)) = lines := by decide +kernel
  obtain ⟨doc, last, mark, count, hdoc, hrender, -, hcount, hlines, -, hread⟩ :=
    render_fencedCode_content {} [] hinfo ⟨0, 5⟩ ⟨0, 19⟩ texts
  rw [htrimmed] at hlines hread
  exact ⟨hinfo, doc, last, mark, count, hdoc, hrender, hcount, hlines, hread⟩

/-- What is a space of the source is one for the reader. -/
theorem isSpaceChar_of_isSpace {byte : UInt8} (hspace : Spelling.isSpace byte) :
    0 < byte.toNat ∧ byte.toNat < 0x80 ∧ isSpaceChar (Char.ofNat byte.toNat) := by
  simp only [Spelling.isSpace, Bool.or_eq_true, beq_iff_eq] at hspace
  rcases hspace with rfl | rfl <;> decide

/-- A text that neither starts nor ends with a space or tab has none at either end of its
bytes. -/
theorem isSpace_ends_encode {text : List Char}
    (hfirst : ∀ c ∈ text.head?, isSpaceChar c = false)
    (hlast : ∀ c ∈ text.getLast?, isSpaceChar c = false) :
    (∀ byte ∈ (Utf8.encode text).head?, Spelling.isSpace byte = false) ∧
      ∀ byte ∈ (Utf8.encode text).getLast?, Spelling.isSpace byte = false := by
  constructor
  · intro byte hbyte
    by_contra hspace
    obtain ⟨hpos, hascii, hchar⟩ := isSpaceChar_of_isSpace (eq_true_of_ne_false hspace)
    have hhead := (Utf8.sameMarks_encode hpos hascii text).head?_iff.mp hbyte
    rw [hfirst _ hhead] at hchar
    cases hchar
  · intro byte hbyte
    by_contra hspace
    obtain ⟨hpos, hascii, hchar⟩ := isSpaceChar_of_isSpace (eq_true_of_ne_false hspace)
    have hend := (Utf8.sameMarks_encode hpos hascii text).getLast?_iff.mp hbyte
    rw [hlast _ hend] at hchar
    cases hchar

/-- The info string goes on with the mark of its fence just if it starts with a tilde and there
is a backtick in it. -/
theorem head?_trimmedInfo_iff (info : List Char) :
    (Utf8.encode (dropTrailing isBlank info)).head? = some (mark (Utf8.encode info)) ↔
      info.head? = some '~' ∧ backtick ∈ info := by
  have hticks : 0x60 ∈ Utf8.encode info ↔ backtick ∈ info :=
    (Utf8.sameMarks_encode (by decide) (by decide) info).mem_iff
  obtain ⟨back, hsplit, -⟩ := exists_dropTrailing_append isBlank info
  rcases mark_cases (Utf8.encode info) with ⟨-, hmark, hmem⟩ | ⟨-, hmark, hnone⟩
  · have hsame : SameMarks 0x7E '~' (Utf8.encode (dropTrailing isBlank info))
        (dropTrailing isBlank info) := Utf8.sameMarks_encode (by decide) (by decide) _
    rw [hmark, hsame.head?_iff, and_iff_left (hticks.mp hmem)]
    constructor
    · intro hhead
      rw [hsplit, List.head?_append_of_ne_nil _ (List.ne_nil_of_mem (List.mem_of_head? hhead))]
      exact hhead
    · intro hhead
      obtain ⟨rest, rfl⟩ := List.head?_eq_some_iff.mp hhead
      have hfirst : dropTrailing isBlank (['~'] ++ rest) = ['~'] ++ dropTrailing isBlank rest :=
        dropTrailing_append_of_eq_self rfl rest
      rw [List.singleton_append] at hfirst
      rw [hfirst]
      rfl
  · have hsame : SameMarks 0x60 backtick (Utf8.encode (dropTrailing isBlank info))
        (dropTrailing isBlank info) := Utf8.sameMarks_encode (by decide) (by decide) _
    rw [hmark, hsame.head?_iff]
    refine iff_of_false (fun hhead => hnone (hticks.mpr ?_)) fun hhead => hnone (hticks.mpr hhead.2)
    rw [hsplit]
    exact List.mem_append_left back (List.mem_of_head? hhead)

/-- Reading an info string does not make it longer. -/
theorem length_readInfo_replicate_append_le {mark : UInt8} {count : Nat} (hcount : 0 < count)
    (rest : Bytes) : (readInfo (List.replicate count mark ++ rest)).length ≤ rest.length := by
  rw [(read_replicate_append hcount rest).2]
  exact (List.rdropWhile_prefix _ _).length_le.trans
    ((List.dropWhile_suffix _).length_le.trans (List.dropWhile_suffix _).length_le)

/-- The fence and an info string without spaces and tabs at its ends are read back from the
first line unless the info string goes on with the mark or a blank is cut at its end. -/
theorem read_openingLine_iff {info : String}
    (hfirst : ∀ c ∈ info.toList.head?, isSpaceChar c = false)
    (hlast : ∀ c ∈ info.toList.getLast?, isSpaceChar c = false) (text : List Char) :
    (readFence (openingLine info text)).length = (around info text).length ∧
        readInfo (openingLine info text) = Utf8.ofString info ↔
      ¬ (info.toList.head? = some '~' ∧ backtick ∈ info.toList) ∧
        ∀ c ∈ info.toList.getLast?, isBlank c = false := by
  have hcount := Nat.lt_of_lt_of_le (Nat.succ_pos 2) (three_le_length_around info text)
  have hline : openingLine info text =
      List.replicate (around info text).length (mark (Utf8.ofString info)) ++
        Utf8.encode (dropTrailing isBlank info.toList) := by
    rw [← around_eq]
    rfl
  rw [hline, ← head?_trimmedInfo_iff, ← dropTrailing_eq_self_iff]
  generalize hkept : dropTrailing isBlank info.toList = kept
  obtain ⟨hfence, hread⟩ :=
    @read_replicate_append (mark (Utf8.ofString info)) _ hcount (Utf8.encode kept)
  constructor
  · rintro ⟨hlength, hinfo⟩
    constructor
    · intro hhead
      obtain ⟨rest, hrest⟩ := List.head?_eq_some_iff.mp hhead
      rw [hfence, hrest] at hlength
      simp [Utf8.ofString] at hlength
    · -- What is cut has no bytes, so nothing is cut.
      obtain ⟨back, hsplit, -⟩ := exists_dropTrailing_append isBlank info.toList
      rw [hkept] at hsplit
      have hle := @length_readInfo_replicate_append_le (mark (Utf8.ofString info)) _ hcount
        (Utf8.encode kept)
      rw [hinfo, Utf8.ofString, hsplit, Utf8.encode_append, List.length_append] at hle
      have hback : Utf8.encode back = [] := List.eq_nil_of_length_eq_zero (by omega)
      rw [hsplit, (sameNewlines back).eq_nil_iff.mp hback, List.append_nil]
  · rintro ⟨hhead, hwhole⟩
    obtain ⟨hbefore, hbehind⟩ := isSpace_ends_encode hfirst hlast
    have hmarks : ∀ byte ∈ (Utf8.encode kept).head?,
        decide (byte = mark (Utf8.ofString info)) = false := by
      intro byte hbyte
      rw [decide_eq_false_iff_not]
      rintro rfl
      exact hhead hbyte
    rw [hfence, hread, takeWhile_eq_nil hmarks, dropWhile_eq_self hmarks, hwhole,
      dropWhile_eq_self hbefore, dropTrailing_eq_self_iff.mpr hbehind, List.append_nil,
      List.length_replicate]
    exact ⟨rfl, rfl⟩

/-- On the first line of a fenced code block, a reader finds a fence as long as the one on the
last line and the info string, unless the info string starts with a tilde and holds a backtick
or ends with a blank other than a space or tab. -/
theorem render_fencedCode_info (config : Config) (source : Bytes) {info : String}
    (hinfo : '\n' ∉ info.toList) (hfirst : ∀ c ∈ info.toList.head?, isSpaceChar c = false)
    (hlast : ∀ c ∈ info.toList.getLast?, isSpaceChar c = false) (opening closing : Segment)
    (texts : List (String × Segment)) :
    ∃ doc last first lines fence,
      Document.ofEvents? source (Passage.construct (.fencedCode info) opening closing
        (Passage.ofTexts texts)).events = some doc ∧
      (Renderer.standard config).render .unlimited source doc = (none, last) ∧
      splitLines last.writer.sink.content = (first :: (lines ++ [fence]), []) ∧
      ((readFence first).length = fence.length ∧ readInfo first = Utf8.ofString info ↔
        ¬ (info.toList.head? = some '~' ∧ backtick ∈ info.toList) ∧
          ∀ c ∈ info.toList.getLast?, isBlank c = false) := by
  let text := texts.flatMap (·.1.toList)
  obtain ⟨last, hrender, hlines⟩ := render_ofFencedCode config source hinfo text opening
  exact ⟨_, last, openingLine info text, trimmedLines text, around info text,
    Document.ofEvents?_fencedCode source info opening closing texts, hrender, hlines,
    read_openingLine_iff hfirst hlast text⟩

/-- A tilde at the start does no harm behind backticks. -/
theorem render_fencedCode_info_tilde :
    '\n' ∉ "~x".toList ∧ (∀ c ∈ "~x".toList.head?, isSpaceChar c = false) ∧
      (∀ c ∈ "~x".toList.getLast?, isSpaceChar c = false) ∧
      ∃ doc last first lines fence,
        Document.ofEvents? [] (Passage.construct (.fencedCode "~x") ⟨0, 5⟩ ⟨0, 7⟩
          (Passage.ofTexts [("y\n", ⟨5, 7⟩)])).events = some doc ∧
        (Renderer.standard {}).render .unlimited [] doc = (none, last) ∧
        splitLines last.writer.sink.content = (first :: (lines ++ [fence]), []) ∧
        (readFence first).length = fence.length ∧ readInfo first = Utf8.ofString "~x" := by
  have hinfo : '\n' ∉ "~x".toList := by decide
  have hfirst : ∀ c ∈ "~x".toList.head?, isSpaceChar c = false := by
    rintro _ ⟨⟩
    rfl
  have hlast : ∀ c ∈ "~x".toList.getLast?, isSpaceChar c = false := by
    rintro _ ⟨⟩
    rfl
  have hread : ¬ ("~x".toList.head? = some '~' ∧ backtick ∈ "~x".toList) ∧
      ∀ c ∈ "~x".toList.getLast?, isBlank c = false := by
    refine ⟨by decide, ?_⟩
    rintro _ ⟨⟩
    rfl
  obtain ⟨doc, last, first, lines, fence, hdoc, hrender, hlines, hiff⟩ :=
    render_fencedCode_info {} [] hinfo hfirst hlast ⟨0, 5⟩ ⟨0, 7⟩ [("y\n", ⟨5, 7⟩)]
  obtain ⟨hfence, hinfo_eq⟩ := hiff.mpr hread
  exact ⟨hinfo, hfirst, hlast, doc, last, first, lines, fence, hdoc, hrender, hlines, hfence,
    hinfo_eq⟩

/-- Behind tildes, a tilde at the start of an info string is taken for a part of the fence. -/
theorem not_forall_render_fencedCode_info : ¬ ∀ (info : String) (texts : List (String × Segment))
    (doc : Document) (first : Bytes) (rest : List Bytes),
    '\n' ∉ info.toList → (∀ c ∈ info.toList.head?, isBlank c = false) →
    (∀ c ∈ info.toList.getLast?, isBlank c = false) →
    Document.ofEvents? [] (Passage.construct (.fencedCode info) ⟨0, 0⟩ ⟨0, 0⟩
      (Passage.ofTexts texts)).events = some doc →
    splitLines ((Renderer.standard {}).render .unlimited [] doc).2.writer.sink.content =
      (first :: rest, []) →
    readInfo first = Utf8.ofString info := by
  intro hall
  have hdoc := Document.ofEvents?_fencedCode [] "~`" ⟨0, 0⟩ ⟨0, 0⟩ [("x\n", ⟨0, 0⟩)]
  have hread := hall "~`" [("x\n", ⟨0, 0⟩)] _ (Utf8.ofString "~~~~`")
    [Utf8.ofString "x", Utf8.ofString "~~~"] (by decide) (by rintro _ ⟨⟩; rfl)
    (by rintro _ ⟨⟩; rfl) hdoc (by decide +kernel)
  exact absurd hread (by decide +kernel)

end CodeFence

end MarkdownFormat
