/-
# The marks of emphasis

Emphasis is written with asterisks on both sides, as many as its level. Where marks meet,
the output has their asterisks and not where one mark ends and the next begins: `*_a_*`
and `__a__` both come out as `**a**`. What can be told from the output of texts and
emphasis are the texts and how many asterisks stand between them. That is everything if
no marks meet and no emphasis stands right inside of one that has as many asterisks.
-/

import MarkdownFormat.Proofs.Render.Paragraph
import MarkdownFormat.Proofs.Text.Boundary

namespace MarkdownFormat

/-- The mark of emphasis. -/
def asterisk : UInt8 := 0x2A

/-- Inline content made of texts and emphasis. A text counts as it is written, with the
line break behind it. -/
inductive Marked
  | text (bytes : Bytes)
  | emphasis (level : Nat) (children : List Marked)

namespace Marked

/-- What is shown of each node and of each row of nodes follows from showing it of a text, of
the row below an emphasis, of the empty row and of a row that starts with a node. -/
theorem rows_induction {ofNode : Marked → Prop} {ofRow : List Marked → Prop}
    (text : ∀ bytes, ofNode (.text bytes))
    (emphasis : ∀ level children, ofRow children → ofNode (.emphasis level children))
    (nil : ofRow [])
    (cons : ∀ node rest, ofNode node → ofRow rest → ofRow (node :: rest)) :
    (∀ node, ofNode node) ∧ ∀ row, ofRow row :=
  ⟨fun node => @Marked.rec ofNode ofRow text emphasis nil cons node,
    fun row => @Marked.rec_1 ofNode ofRow text emphasis nil cons row⟩

/-- Whether a node is a text. -/
def isText : Marked → Bool
  | .text _ => true
  | .emphasis _ _ => false

mutual
/-- A node as it is written. -/
def spelled : Marked → Bytes
  | .text bytes => bytes
  | .emphasis level children =>
      List.replicate level asterisk ++ (spelledRow children ++ List.replicate level asterisk)

/-- Nodes as they are written, one after the other. -/
def spelledRow : List Marked → Bytes
  | [] => []
  | node :: rest => node.spelled ++ spelledRow rest
end

mutual
/-- Whether all texts are some bytes without asterisks, no two of them side by side, and all
emphasis has a mark. -/
def isProper : Marked → Bool
  | .text bytes => bytes ≠ [] && asterisk ∉ bytes
  | .emphasis level children => 0 < level && areProper children

/-- Whether the nodes are proper and no two texts stand side by side. -/
def areProper : List Marked → Bool
  | [] => true
  | node :: rest =>
      node.isProper && !(node.isText && rest.head?.any isText) && areProper rest
end

mutual
/-- Whether no two marks meet in a node, and none encloses another of its length, given the
length of the mark around the node. -/
def isApart (around : Nat) : Marked → Bool
  | .text _ => true
  | .emphasis level children =>
      level ≠ around && children.head?.any isText && children.getLast?.any isText &&
        areApart level children

/-- Whether the nodes keep their marks apart and no two of them with marks stand side by
side. -/
def areApart (around : Nat) : List Marked → Bool
  | [] => true
  | node :: rest =>
      node.isApart around && (node.isText || rest.head?.all isText) && areApart around rest
end

end Marked

/-- Texts, and how many asterisks stand before the first of them and behind each. -/
structure Runs where
  front : Nat := 0
  texts : List (Bytes × Nat) := []
  deriving DecidableEq

namespace Runs

/-- The runs with more asterisks before them. -/
def marked (count : Nat) (runs : Runs) : Runs :=
  { runs with front := count + runs.front }

/-- The runs behind a text. -/
def behind (bytes : Bytes) (runs : Runs) : Runs :=
  ⟨0, (bytes, runs.front) :: runs.texts⟩

/-- The bytes that the runs are those of. -/
def bytes (runs : Runs) : Bytes :=
  List.replicate runs.front asterisk ++
    runs.texts.flatMap fun text => text.1 ++ List.replicate text.2 asterisk

/-- The runs of some bytes. -/
def ofBytes : Bytes → Runs
  | [] => {}
  | byte :: rest =>
    let runs := ofBytes rest
    if byte = asterisk then runs.marked 1
    else match runs with
      | ⟨0, (text, count) :: texts⟩ => ⟨0, (byte :: text, count) :: texts⟩
      | _ => runs.behind [byte]

/-- Whether there is no text right at the start. -/
def startsApart (runs : Runs) : Bool :=
  0 < runs.front || runs.texts.isEmpty

/-- Marks stand before all bytes. -/
theorem bytes_marked (count : Nat) (runs : Runs) :
    (runs.marked count).bytes = List.replicate count asterisk ++ runs.bytes := by
  rw [bytes, bytes, marked, List.replicate_add, List.append_assoc]

/-- So do other bytes. -/
theorem bytes_behind (bytes : Bytes) (runs : Runs) :
    (runs.behind bytes).bytes = bytes ++ runs.bytes := by
  simp [Runs.bytes, behind]

/-- Marks before marks are marks. -/
theorem marked_marked (first second : Nat) (runs : Runs) :
    (runs.marked second).marked first = runs.marked (first + second) := by
  simp [marked, Nat.add_assoc]

/-- Asterisks before some bytes add to the first run. -/
theorem ofBytes_replicate_append (count : Nat) (bytes : Bytes) :
    ofBytes (List.replicate count asterisk ++ bytes) = (ofBytes bytes).marked count := by
  induction count with
  | zero => simp [marked]
  | succ count ih =>
      rw [List.replicate_succ, List.cons_append, ofBytes, if_pos rfl, ih, marked_marked,
        Nat.add_comm]

/-- A text before some bytes is found if these do not start with a text themselves. -/
theorem ofBytes_text_append {text bytes : Bytes} (hnonempty : text ≠ []) (hnone : asterisk ∉ text)
    (hapart : (ofBytes bytes).startsApart) :
    ofBytes (text ++ bytes) = (ofBytes bytes).behind text := by
  induction text with
  | nil => exact absurd rfl hnonempty
  | cons byte text ih =>
      rw [List.mem_cons, not_or] at hnone
      rw [List.cons_append, ofBytes, if_neg (Ne.symm hnone.1)]
      cases text with
      | nil =>
          -- Behind the last byte stands a mark or nothing.
          rw [List.nil_append]
          rcases hruns : ofBytes bytes with ⟨_ | front, _ | ⟨next, texts⟩⟩
          · rfl
          · rw [hruns] at hapart
            cases hapart
          · rfl
          · rfl
      | cons next text =>
          rw [ih nofun hnone.2]
          rfl

end Runs

namespace Marked

mutual
/-- The runs of a node and what follows it. -/
def runs (after : Runs) : Marked → Runs
  | .text bytes => after.behind bytes
  | .emphasis level children => (runsOfRow (after.marked level) children).marked level

/-- The runs of some nodes and what follows them. -/
def runsOfRow (after : Runs) : List Marked → Runs
  | [] => after
  | node :: rest => runs (runsOfRow after rest) node
end

/-- The runs tell what is written. -/
theorem bytes_runs_rows :
    (∀ (node : Marked) (after : Runs), (node.runs after).bytes = node.spelled ++ after.bytes) ∧
      ∀ (row : List Marked) (after : Runs),
        (runsOfRow after row).bytes = spelledRow row ++ after.bytes := by
  apply rows_induction
  · intro bytes after
    exact after.bytes_behind bytes
  · intro level children ih after
    rw [runs, Runs.bytes_marked, ih, Runs.bytes_marked, spelled]
    simp only [List.append_assoc]
  · intro after
    rfl
  · intro node rest ihNode ihRest after
    rw [runsOfRow, ihNode, ihRest, spelledRow, List.append_assoc]

/-- A mark keeps what follows apart from a text before it. -/
theorem startsApart_marked {count : Nat} (hcount : 0 < count) (runs : Runs) :
    (runs.marked count).startsApart := by
  simp [Runs.startsApart, Runs.marked, Nat.lt_add_right _ hcount]

/-- What is written tells the runs: each text ends where an asterisk follows. -/
theorem ofBytes_spelled_rows :
    (∀ (node : Marked) (after : Bytes), node.isProper →
      (node.isText → (Runs.ofBytes after).startsApart) →
      Runs.ofBytes (node.spelled ++ after) = node.runs (Runs.ofBytes after)) ∧
    ∀ (row : List Marked) (after : Bytes), areProper row →
      (Runs.ofBytes after).startsApart →
      Runs.ofBytes (spelledRow row ++ after) = runsOfRow (Runs.ofBytes after) row := by
  apply rows_induction
  · intro bytes after hproper hapart
    simp only [isProper, Bool.and_eq_true, decide_eq_true_eq] at hproper
    exact Runs.ofBytes_text_append hproper.1 hproper.2 (hapart rfl)
  · intro level children ih after hproper hapart
    simp only [isProper, Bool.and_eq_true, decide_eq_true_eq] at hproper
    have hclosing := Runs.ofBytes_replicate_append level after
    have hchildren := ih (List.replicate level asterisk ++ after) hproper.2
      (hclosing ▸ startsApart_marked hproper.1 _)
    rw [spelled, List.append_assoc, Runs.ofBytes_replicate_append, List.append_assoc, hchildren,
      hclosing, runs]
  · intro after hproper hapart
    rfl
  · intro node rest ihNode ihRest after hproper hapart
    simp only [areProper, Bool.and_eq_true] at hproper
    obtain ⟨⟨hnode, hneighbours⟩, hrest⟩ := hproper
    have hlater := ihRest after hrest hapart
    rw [spelledRow, List.append_assoc, ihNode _ hnode, hlater, runsOfRow]
    intro htext
    rw [hlater]
    -- Next to a text there is an emphasis with its mark, or the end of the row.
    cases rest with
    | nil => exact hapart
    | cons next rest =>
        cases next with
        | text bytes =>
            rw [htext] at hneighbours
            cases hneighbours
        | emphasis level children =>
            simp only [areProper, isProper, Bool.and_eq_true, decide_eq_true_eq] at hrest
            exact startsApart_marked hrest.1.1.1 _

end Marked

/-- How far some runs have been read: the row that has been read last, and around it, from
the inside out, each emphasis that is still open, with its level and what stands before it. -/
structure Reading where
  outer : List (Nat × List Marked) := []
  row : List Marked := []

namespace Reading

variable (reading : Reading)

/-- The level of the innermost open emphasis. -/
def around : Nat :=
  (reading.outer.head?.map Prod.fst).getD 0

/-- Adds nodes to the row. -/
def add (nodes : List Marked) : Reading :=
  { reading with row := reading.row ++ nodes }

/-- Starts an emphasis. -/
def enter (level : Nat) : Reading :=
  ⟨(level, reading.row) :: reading.outer, []⟩

/-- Ends the innermost open emphasis. -/
def leave : Reading :=
  match reading.outer with
  | [] => reading
  | (level, before) :: outer => ⟨outer, before ++ [.emphasis level reading.row]⟩

/-- Takes some asterisks for one mark: the closing one if it is as long as the opening one
of the innermost emphasis. -/
def mark (count : Nat) : Reading :=
  if count = 0 then reading
  else if count = reading.around then reading.leave
  else reading.enter count

/-- Takes a text and the asterisks behind it. -/
def text (part : Bytes × Nat) : Reading :=
  (reading.add [.text part.1]).mark part.2

@[simp]
theorem add_add (first second : List Marked) :
    (reading.add first).add second = reading.add (first ++ second) := by
  simp [add]

variable {reading} {count : Nat}

/-- A mark of another length than the one around it opens an emphasis. -/
theorem mark_opening (hcount : count ≠ 0) (haround : count ≠ reading.around) :
    reading.mark count = reading.enter count := by
  rw [mark, if_neg hcount, if_neg haround]

/-- A mark of the same length as the opening one closes an emphasis. -/
theorem mark_closing (hcount : count ≠ 0) (children : List Marked) :
    ((reading.enter count).add children).mark count = reading.add [.emphasis count children] := by
  rw [mark, if_neg hcount]
  exact if_pos rfl

end Reading

namespace Runs

/-- Reads runs. -/
def read (reading : Reading) (runs : Runs) : Reading :=
  runs.texts.foldl Reading.text (reading.mark runs.front)

/-- If a text follows the asterisks, they make a mark of their own. -/
theorem read_marked {runs : Runs} (htext : runs.front = 0) (reading : Reading) (count : Nat) :
    (runs.marked count).read reading = runs.read (reading.mark count) := by
  simp [read, marked, htext, Reading.mark]

/-- Bytes before marks are read first. -/
theorem read_behind (reading : Reading) (bytes : Bytes) (runs : Runs) :
    (runs.behind bytes).read reading = runs.read (reading.add [.text bytes]) := rfl

end Runs

namespace Marked

/-- There are no asterisks before a row that starts with a text, and none before an empty one
if none follow it. -/
theorem front_runsOfRow {row : List Marked} {after : Runs} (hfirst : row.head?.all isText)
    (hafter : row = [] → after.front = 0) : (runsOfRow after row).front = 0 := by
  cases row with
  | nil => exact hafter rfl
  | cons node rest =>
      cases node with
      | text bytes => rfl
      | emphasis level children => cases hfirst

/-- Nodes whose marks are apart are read back, whatever is open around them and whatever
follows, if no further mark follows theirs. -/
theorem read_runs_rows :
    (∀ (node : Marked) (reading : Reading) (after : Runs), node.isProper →
      node.isApart reading.around → (node.isText = false → after.front = 0) →
      (node.runs after).read reading = after.read (reading.add [node])) ∧
    ∀ (row : List Marked) (reading : Reading) (after : Runs), areProper row →
      areApart reading.around row → (row.getLast?.any (!·.isText) → after.front = 0) →
      (runsOfRow after row).read reading = after.read (reading.add row) := by
  apply rows_induction
  · intro bytes reading after hproper hapart hafter
    exact after.read_behind reading bytes
  · intro level children ih reading after hproper hapart hafter
    simp only [isProper, Bool.and_eq_true, decide_eq_true_eq] at hproper
    simp only [isApart, Bool.and_eq_true, decide_eq_true_eq] at hapart
    obtain ⟨⟨⟨hlevel, hfirst⟩, hlast⟩, hchildren⟩ := hapart
    have hpositive : level ≠ 0 := Nat.ne_of_gt hproper.1
    have hopening : (runsOfRow (after.marked level) children).front = 0 := by
      cases children with
      | nil => cases hfirst
      | cons child rest => exact front_runsOfRow hfirst nofun
    rw [runs, Runs.read_marked hopening, Reading.mark_opening hpositive hlevel,
      ih (reading.enter level) _ hproper.2 hchildren ?_, Runs.read_marked (hafter rfl),
      Reading.mark_closing hpositive]
    -- The last child is a text.
    intro hmarked
    cases hend : children.getLast? with
    | none =>
        rw [hend] at hlast
        cases hlast
    | some child =>
        rw [hend, Option.any_some] at hlast hmarked
        rw [hlast] at hmarked
        cases hmarked
  · intro reading after hproper hapart hafter
    rw [runsOfRow, Reading.add, List.append_nil]
  · intro node rest ihNode ihRest reading after hproper hapart hafter
    simp only [areProper, Bool.and_eq_true] at hproper
    simp only [areApart, Bool.and_eq_true] at hapart
    obtain ⟨⟨hnode, -⟩, hrest⟩ := hproper
    obtain ⟨⟨hnodeApart, hneighbours⟩, hrestApart⟩ := hapart
    rw [runsOfRow, ihNode reading _ hnode hnodeApart ?_,
      ihRest (reading.add [node]) after hrest hrestApart ?_, Reading.add_add]
    · rfl
    · intro hlast
      apply hafter
      cases rest with
      | nil => cases hlast
      | cons next rest => rwa [List.getLast?_cons_cons]
    · intro hmarked
      rw [hmarked, Bool.false_or] at hneighbours
      refine front_runsOfRow hneighbours ?_
      rintro rfl
      exact hafter (by simp [hmarked])

/-- What is written tells the runs of some nodes. -/
theorem ofBytes_spelledRow {row : List Marked} (hproper : areProper row) :
    Runs.ofBytes (spelledRow row) = runsOfRow {} row := by
  have hruns := ofBytes_spelled_rows.2 row [] hproper rfl
  rwa [List.append_nil] at hruns

/-- Proper nodes are written alike if their runs are the same. -/
theorem spelledRow_eq_iff {row other : List Marked} (hproper : areProper row)
    (hother : areProper other) :
    spelledRow row = spelledRow other ↔ runsOfRow {} row = runsOfRow {} other := by
  rw [← ofBytes_spelledRow hproper, ← ofBytes_spelledRow hother]
  refine ⟨congrArg Runs.ofBytes, fun hruns => ?_⟩
  have hbytes := congrArg Runs.bytes hruns
  rw [ofBytes_spelledRow hproper, ofBytes_spelledRow hother, bytes_runs_rows.2,
    bytes_runs_rows.2] at hbytes
  exact List.append_cancel_right hbytes

/-- If their marks are apart, the runs tell the nodes. -/
theorem runsOfRow_eq_iff {row other : List Marked} (hproper : areProper row)
    (hother : areProper other) (hapart : areApart 0 row) (hotherApart : areApart 0 other) :
    runsOfRow {} row = runsOfRow {} other ↔ row = other := by
  have hread : ∀ {nodes : List Marked}, areProper nodes → areApart 0 nodes →
      ((runsOfRow {} nodes).read {}).row = nodes := by
    intro nodes hproper hapart
    rw [read_runs_rows.2 nodes {} {} hproper hapart fun _ => rfl]
    rfl
  refine ⟨fun hruns => ?_, congrArg _⟩
  rw [← hread hproper hapart, hruns, hread hother hotherApart]

end Marked

/-- Finished lines are the same if they are when their blanks are cut. -/
theorem flatten_finished_eq_iff (first second : Bytes) :
    ((linesOf first).map finished).flatten = ((linesOf second).map finished).flatten ↔
      (linesOf first).map trimmedLine = (linesOf second).map trimmedLine := by
  have hlines : ∀ bytes, ∀ line ∈ (linesOf bytes).map trimmedLine, newline ∉ line := by
    intro bytes line hline
    obtain ⟨whole, hwhole, rfl⟩ := List.mem_map.mp hline
    exact fun hmem => newline_notMem_linesOf bytes whole hwhole
      ((Utf8.trimmedLine_prefix whole).subset hmem)
  constructor
  · intro hsame
    have hsplit := congrArg (fun bytes => (splitLines bytes).1) hsame
    simpa only [splitLines_flatten_finished (hlines _)] using hsplit
  · intro hsame
    have hfinished : ∀ bytes, (linesOf bytes).map finished =
        ((linesOf bytes).map trimmedLine).map (· ++ [newline]) := by
      intro bytes
      rw [List.map_map]
      rfl
    rw [hfinished, hfinished, hsame]

/-- Whether bytes are written as they are: no line has blanks at its end, and the last of them
is not ended. -/
def IsTidy (bytes : Bytes) : Prop :=
  bytes.getLast? ≠ some newline ∧ ∀ line ∈ linesOf bytes, trimmedLine line = line

/-- Tidy bytes are told by their lines, even where these are cut. -/
theorem map_trimmedLine_eq_iff {first second : Bytes} (hfirst : IsTidy first)
    (hsecond : IsTidy second) :
    (linesOf first).map trimmedLine = (linesOf second).map trimmedLine ↔ first = second := by
  have hjoined : ∀ {bytes : Bytes}, IsTidy bytes →
      [newline].intercalate ((linesOf bytes).map trimmedLine) = bytes := by
    intro bytes htidy
    rw [List.map_congr_left htidy.2, List.map_id']
    by_cases hempty : bytes = []
    · subst hempty
      rfl
    · rw [Renderer.linesOf_eq_splitOn hempty htidy.1, List.intercalate_splitOn]
  refine ⟨fun hsame => ?_, congrArg fun bytes => (linesOf bytes).map trimmedLine⟩
  rw [← hjoined hfirst, hsame, hjoined hsecond]

mutual
/-- The tree is the given text or emphasis. -/
def Tree.Shows (source : Bytes) : Tree → Marked → Prop
  | .node label children, .text bytes =>
      label.element.kind = .text ∧ children = [] ∧
        Printer.front source none label.element = bytes
  | .node label children, .emphasis level inner =>
      label.element = .emphasis level ∧ ShowEach source children inner

/-- The trees are the given texts and emphasis. -/
def Tree.ShowEach (source : Bytes) : List Tree → List Marked → Prop
  | [], row => row = []
  | tree :: rest, row =>
      ∃ first later, row = first :: later ∧ tree.Shows source first ∧ ShowEach source rest later
end

/-- The document is a paragraph of the given texts and emphasis. -/
def Document.ShowsParagraph (doc : Document) (source : Bytes) (row : List Marked) : Prop :=
  ∃ (label inner : Label) (trees : List Tree),
    doc.Holds (.node label [.node inner trees]) Document.root ∧
      (doc.node Document.root).previous = none ∧
      label.element = .document ∧ inner.element = .paragraph ∧ Tree.ShowEach source trees row

/-- Texts and emphasis stand where inlines may stand, and are printed as they are spelled. -/
theorem Tree.Shows.inline_rows (source : Bytes) :
    (∀ (tree : Tree) (node : Marked), tree.Shows source node →
      tree.isMarkdown ∧ tree.kind.isBlock = false ∧
        Printer.inline source none tree = (node.spelled, none)) ∧
    ∀ (trees : List Tree) (row : List Marked), Tree.ShowEach source trees row →
      Tree.areMarkdown .paragraph trees ∧ Tree.areMarkdown .emphasis trees ∧
        Printer.inlineRow source none trees = (Marked.spelledRow row, none) := by
  apply Tree.rows_induction
  · intro label children ih node hshows
    cases node with
    | text bytes =>
        obtain ⟨hkind, rfl, rfl⟩ := hshows
        cases helement : label.element <;> rw [helement] at hkind <;> cases hkind
        simp [Tree.isMarkdown, Tree.areMarkdown, Tree.kind, Tree.label, helement, Printer.inline,
          Printer.inlineRow, Printer.back, Marked.spelled, Element.kind, Kind.isCore,
          Kind.isBlock, Element.hasPlainMarker]
    | emphasis level inner =>
        obtain ⟨helement, hinner⟩ := hshows
        obtain ⟨-, hmarkdown, hinline⟩ := ih inner hinner
        have hmark : Utf8.encode (List.replicate level '*') = List.replicate level asterisk :=
          Utf8.encode_replicate (by decide) level
        simp [Tree.isMarkdown, Tree.kind, Tree.label, helement, Printer.inline, hinline, hmarkdown,
          Printer.front, Printer.back, Marked.spelled, Element.kind, Kind.isCore, Kind.isBlock,
          Element.hasPlainMarker, hmark]
  · intro row hshows
    cases hshows
    exact ⟨rfl, rfl, rfl⟩
  · intro tree rest ihTree ihRest row hshows
    obtain ⟨first, later, rfl, htree, hrest⟩ := hshows
    obtain ⟨hmarkdown, hblock, hinline⟩ := ihTree first htree
    obtain ⟨hparagraph, hemphasis, hinlines⟩ := ihRest later hrest
    simp [Tree.areMarkdown, Kind.mayHold, hmarkdown, hblock, hparagraph, hemphasis,
      Printer.inlineRow, hinline, hinlines, Marked.spelledRow]

namespace Renderer

/-- A paragraph of texts and emphasis is written line by line, as it is spelled. -/
theorem content_render_marked (config : Config) {source : Bytes} {doc : Document}
    {row : List Marked} (hshows : doc.ShowsParagraph source row) :
    ∃ last, (standard config).render .unlimited source doc = (none, last) ∧
      last.writer.sink.content =
        ((linesOf (Marked.spelledRow row)).map finished).flatten := by
  obtain ⟨label, inner, trees, hholds, hprevious, hlabel, hinner, htrees⟩ := hshows
  obtain ⟨hmarkdown, -, hinline⟩ := (Tree.Shows.inline_rows source).2 trees row htrees
  have hkind : (Tree.node label [.node inner trees]).kind = .document :=
    congrArg Element.kind hlabel
  have hwhole : (Tree.node label [.node inner trees]).isMarkdown := by
    simp [Tree.isMarkdown, Tree.areMarkdown, Tree.kind, Tree.label, hlabel, hinner, hmarkdown,
      Element.kind, Kind.isCore, Kind.mayHold, Kind.isBlock, Element.hasPlainMarker]
  obtain ⟨last, hrender, hreceived⟩ := render_block config source .unlimited rfl hholds hwhole
    (by rw [hkind]; rfl) (by rw [hkind]; decide)
  have hprint : Printer.print config source ((doc.node Document.root).previous.map doc.kind)
      (.node label [.node inner trees]) = linesOf (Marked.spelledRow row) := by
    rw [Printer.print, hkind, hprevious]
    simp [Printer.separation, Printer.block, hlabel, Printer.row, hinner, Printer.plain,
      Printer.content, hinline, Kind.isBlock]
  refine ⟨last, hrender, ?_⟩
  rw [Sink.content, hreceived, hprint]
  rfl

open Marked in
/-- Two paragraphs of texts and emphasis are written alike exactly if their lines are the same
without the blanks at their ends. If there are no such blanks, this is so exactly if the
paragraphs have the same texts with the same numbers of asterisks between them, and if marks
are apart, only of the same texts and emphasis. -/
theorem content_render_marked_eq_iff (config : Config) {source otherSource : Bytes}
    {doc otherDoc : Document} {row otherRow : List Marked} (hshows : doc.ShowsParagraph source row)
    (hother : otherDoc.ShowsParagraph otherSource otherRow) (hproper : areProper row)
    (hotherProper : areProper otherRow) :
    ∃ last otherLast,
      (standard config).render .unlimited source doc = (none, last) ∧
      (standard config).render .unlimited otherSource otherDoc = (none, otherLast) ∧
      let same := last.writer.sink.content = otherLast.writer.sink.content
      (same ↔ (linesOf (spelledRow row)).map trimmedLine =
        (linesOf (spelledRow otherRow)).map trimmedLine) ∧
      (IsTidy (spelledRow row) → IsTidy (spelledRow otherRow) →
        (same ↔ runsOfRow {} row = runsOfRow {} otherRow) ∧
        (areApart 0 row → areApart 0 otherRow → (same ↔ row = otherRow))) := by
  obtain ⟨last, hrender, hcontent⟩ := content_render_marked config hshows
  obtain ⟨otherLast, hotherRender, hotherContent⟩ := content_render_marked config hother
  have hlines := flatten_finished_eq_iff (spelledRow row) (spelledRow otherRow)
  rw [← hcontent, ← hotherContent] at hlines
  refine ⟨last, otherLast, hrender, hotherRender, hlines, fun htidy hotherTidy => ?_⟩
  have hruns := hlines.trans ((map_trimmedLine_eq_iff htidy hotherTidy).trans
    (spelledRow_eq_iff hproper hotherProper))
  exact ⟨hruns, fun hapart hotherApart =>
    hruns.trans (runsOfRow_eq_iff hproper hotherProper hapart hotherApart)⟩

/-- Emphasis inside of emphasis, between two texts. -/
def enclosedEmphasis (outer inner : Nat) : List Marked :=
  [.emphasis outer [.text [0x61], .emphasis inner [.text [0x62]], .text [0x63]]]

/-- A document that shows emphasis inside of emphasis. -/
def enclosedEmphasisDocument (outer inner : Nat) : Document :=
  ⟨#[{ element := .document, firstChild := some 1, lastChild := some 1 },
    { element := .paragraph, parent := some 0, firstChild := some 2, lastChild := some 2 },
    { element := .emphasis outer, parent := some 1, firstChild := some 3, lastChild := some 6 },
    { element := .plainText (.owned "a"), parent := some 2, next := some 4 },
    { element := .emphasis inner, parent := some 2, firstChild := some 5, lastChild := some 5,
      previous := some 3, next := some 6 },
    { element := .plainText (.owned "b"), parent := some 4 },
    { element := .plainText (.owned "c"), parent := some 2, previous := some 4 }]⟩

/-- The document is a paragraph with the emphasis. -/
theorem enclosedEmphasisDocument_shows (outer inner : Nat) :
    (enclosedEmphasisDocument outer inner).ShowsParagraph [] (enclosedEmphasis outer inner) := by
  have hsize : ∀ id, id < 7 → id < (enclosedEmphasisDocument outer inner).size := fun _ hid => hid
  let trees : List Tree := [.node { element := .emphasis outer } [
    .node { element := .plainText (.owned "a") } [],
    .node { element := .emphasis inner } [.node { element := .plainText (.owned "b") } []],
    .node { element := .plainText (.owned "c") } []]]
  have htrees : (enclosedEmphasisDocument outer inner).HoldsEach trees [2] :=
    ⟨2, [], rfl, ⟨hsize 2 (by decide), rfl, [3, 4, 6],
      ⟨rfl, rfl, rfl, rfl, rfl, rfl, rfl, rfl, rfl, rfl, rfl⟩,
      3, [4, 6], rfl, ⟨hsize 3 (by decide), rfl, [], ⟨rfl, rfl⟩, rfl⟩,
      4, [6], rfl, ⟨hsize 4 (by decide), rfl, [5], ⟨rfl, rfl, rfl, rfl, rfl⟩,
        5, [], rfl, ⟨hsize 5 (by decide), rfl, [], ⟨rfl, rfl⟩, rfl⟩, rfl⟩,
      6, [], rfl, ⟨hsize 6 (by decide), rfl, [], ⟨rfl, rfl⟩, rfl⟩, rfl⟩, rfl⟩
  have hshown : Tree.ShowEach [] trees (enclosedEmphasis outer inner) :=
    ⟨_, _, rfl, ⟨rfl, _, _, rfl, ⟨rfl, rfl, rfl⟩, _, _, rfl,
      ⟨rfl, _, _, rfl, ⟨rfl, rfl, rfl⟩, rfl⟩, _, _, rfl, ⟨rfl, rfl, rfl⟩, rfl⟩, rfl⟩
  exact ⟨{ element := .document }, { element := .paragraph }, trees,
    ⟨hsize 0 (by decide), rfl, [1], ⟨rfl, rfl, rfl, rfl, rfl⟩, 1, [], rfl,
      ⟨hsize 1 (by decide), rfl, [2], ⟨rfl, rfl, rfl, rfl, rfl⟩, htrees⟩, rfl⟩,
    rfl, rfl, rfl, hshown⟩

/-- It can be told which of two marks is the outer one. -/
theorem content_render_marked_eq_iff_enclosed :
    (enclosedEmphasisDocument 1 2).ShowsParagraph [] (enclosedEmphasis 1 2) ∧
      (enclosedEmphasisDocument 2 1).ShowsParagraph [] (enclosedEmphasis 2 1) ∧
      Marked.areProper (enclosedEmphasis 1 2) ∧ Marked.areProper (enclosedEmphasis 2 1) ∧
      ∃ last otherLast,
        (standard {}).render .unlimited [] (enclosedEmphasisDocument 1 2) = (none, last) ∧
        (standard {}).render .unlimited [] (enclosedEmphasisDocument 2 1) = (none, otherLast) ∧
        last.writer.sink.content ≠ otherLast.writer.sink.content := by
  have hproper : Marked.areProper (enclosedEmphasis 1 2) := by decide
  have hotherProper : Marked.areProper (enclosedEmphasis 2 1) := by decide
  have htidy : IsTidy (Marked.spelledRow (enclosedEmphasis 1 2)) :=
    ⟨by decide, by decide +kernel⟩
  have hotherTidy : IsTidy (Marked.spelledRow (enclosedEmphasis 2 1)) :=
    ⟨by decide, by decide +kernel⟩
  obtain ⟨last, otherLast, hrender, hother, -, hsame⟩ := content_render_marked_eq_iff {}
    (enclosedEmphasisDocument_shows 1 2) (enclosedEmphasisDocument_shows 2 1) hproper hotherProper
  refine ⟨enclosedEmphasisDocument_shows 1 2, enclosedEmphasisDocument_shows 2 1, hproper,
    hotherProper, last, otherLast, hrender, hother, ?_⟩
  intro hcontent
  have hrows := ((hsame htidy hotherTidy).2 (by decide) (by decide)).mp hcontent
  simp [enclosedEmphasis] at hrows

/-- Emphasis right inside of emphasis. -/
def doubledEmphasisDocument : Document :=
  ⟨#[{ element := .document, firstChild := some 1, lastChild := some 1 },
    { element := .paragraph, parent := some 0, firstChild := some 2, lastChild := some 2 },
    { element := .emphasis 1, parent := some 1, firstChild := some 3, lastChild := some 3 },
    { element := .emphasis 1, parent := some 2, firstChild := some 4, lastChild := some 4 },
    { element := .plainText (.owned "a"), parent := some 3 }]⟩

/-- Strong emphasis. -/
def strongDocument : Document :=
  ⟨#[{ element := .document, firstChild := some 1, lastChild := some 1 },
    { element := .paragraph, parent := some 0, firstChild := some 2, lastChild := some 2 },
    { element := .emphasis 2, parent := some 1, firstChild := some 3, lastChild := some 3 },
    { element := .plainText (.owned "a"), parent := some 2 }]⟩

/-- Two marks of one asterisk cannot be told from one mark of two. -/
theorem content_render_doubled_eq_strong :
    let doubled := [Marked.emphasis 1 [.emphasis 1 [.text [0x61]]]]
    let strong := [Marked.emphasis 2 [.text [0x61]]]
    doubledEmphasisDocument.ShowsParagraph [] doubled ∧ strongDocument.ShowsParagraph [] strong ∧
      Marked.areProper doubled ∧ Marked.areProper strong ∧ doubled ≠ strong ∧
      ((standard {}).render .unlimited [] doubledEmphasisDocument).2.writer.sink.content =
        Utf8.ofString "**a**\n" ∧
      ((standard {}).render .unlimited [] strongDocument).2.writer.sink.content =
        Utf8.ofString "**a**\n" := by
  have hdoubled : doubledEmphasisDocument.ShowsParagraph []
      [.emphasis 1 [.emphasis 1 [.text [0x61]]]] :=
    ⟨{ element := .document }, { element := .paragraph },
      [.node { element := .emphasis 1 } [.node { element := .emphasis 1 } [
        .node { element := .plainText (.owned "a") } []]]],
      ⟨by decide, rfl, [1], ⟨rfl, rfl, rfl, rfl, rfl⟩, 1, [], rfl,
        ⟨by decide, rfl, [2], ⟨rfl, rfl, rfl, rfl, rfl⟩, 2, [], rfl,
          ⟨by decide, rfl, [3], ⟨rfl, rfl, rfl, rfl, rfl⟩, 3, [], rfl,
            ⟨by decide, rfl, [4], ⟨rfl, rfl, rfl, rfl, rfl⟩, 4, [], rfl,
              ⟨by decide, rfl, [], ⟨rfl, rfl⟩, rfl⟩, rfl⟩, rfl⟩, rfl⟩, rfl⟩,
      rfl, rfl, rfl, _, _, rfl,
      ⟨rfl, _, _, rfl, ⟨rfl, _, _, rfl, ⟨rfl, rfl, rfl⟩, rfl⟩, rfl⟩, rfl⟩
  have hstrong : strongDocument.ShowsParagraph [] [.emphasis 2 [.text [0x61]]] :=
    ⟨{ element := .document }, { element := .paragraph },
      [.node { element := .emphasis 2 } [.node { element := .plainText (.owned "a") } []]],
      ⟨by decide, rfl, [1], ⟨rfl, rfl, rfl, rfl, rfl⟩, 1, [], rfl,
        ⟨by decide, rfl, [2], ⟨rfl, rfl, rfl, rfl, rfl⟩, 2, [], rfl,
          ⟨by decide, rfl, [3], ⟨rfl, rfl, rfl, rfl, rfl⟩, 3, [], rfl,
            ⟨by decide, rfl, [], ⟨rfl, rfl⟩, rfl⟩, rfl⟩, rfl⟩, rfl⟩,
      rfl, rfl, rfl, _, _, rfl, ⟨rfl, _, _, rfl, ⟨rfl, rfl, rfl⟩, rfl⟩, rfl⟩
  refine ⟨hdoubled, hstrong, by decide, by decide, by simp, ?_, ?_⟩
  · decide +kernel
  · decide +kernel

end Renderer

end MarkdownFormat
