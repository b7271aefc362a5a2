/-
# What stands before items

The first line of an item stands behind its marker and a space. The later lines stand behind
as many spaces, or a multiple of that which is up to the configuration: they are always in
reach of the item, but a multiple can put them so far in that they are read as indented code.
The number of an item is the start of its list and its place there, whatever the reader takes
for a number.
-/

import MarkdownFormat.Proofs.Reader.ItemContent
import MarkdownFormat.Proofs.Render.ItemLines

namespace MarkdownFormat

open Opening

/-- The marker of an item that is entered in a state: that of the next item of the innermost
list, or a dash outside of lists. -/
def RenderState.itemMarker (state : RenderState) : List Char :=
  match state.lists with
  | frame :: _ => (ListItem.nextMarker frame).1
  | [] => ['-']

/-- The marker of an item does not depend on the writer. -/
theorem exists_performs_itemMarker (state : RenderState) :
    ∃ marked, Performs Render.itemMarker state [] state.itemMarker marked := by
  rw [RenderState.itemMarker]
  cases hlists : state.lists with
  | nil => exact ⟨_, performs_itemMarker_outside hlists⟩
  | cons frame lists => exact ⟨_, performs_itemMarker hlists⟩

namespace ListItem

/-- The width of what stands before the first line of an item. -/
def width (marker : List Char) : Nat :=
  (firstLead marker).length

/-- The number of spaces before the later lines of an item. -/
def indent (config : Config) (marker : List Char) : Nat :=
  (laterLead config (firstLead marker)).length

variable (config : Config) (marker : List Char)

/-- The indent is a multiple of the width of the marker. -/
theorem indent_eq : indent config marker = config.effectiveNestedListLength * width marker :=
  List.length_replicate

/-- Later lines are indented by spaces. -/
theorem laterLead_eq : laterLead config (firstLead marker) =
    List.replicate (indent config marker) 0x20 := by
  rw [indent_eq]
  rfl

/-- The indent is as wide as the marker at least. -/
theorem width_le_indent : width marker ≤ indent config marker := by
  rw [indent_eq]
  exact Nat.le_mul_of_pos_left _ (Nat.le_max_right _ _)

/-- Without a multiple, the later lines stand right below the content of the first. -/
theorem indent_eq_width (hlength : config.nestedListLength ≤ 1) :
    indent config marker = width marker := by
  have hone : config.effectiveNestedListLength = 1 := Nat.max_eq_right hlength
  rw [indent_eq, hone, Nat.one_mul]

/-- What the multiple adds must stay below the four columns of indented code. -/
theorem indent_le_iff : indent config marker ≤ width marker + 3 ↔
    (config.effectiveNestedListLength - 1) * width marker ≤ 3 := by
  have hpos : 1 ≤ config.effectiveNestedListLength := Nat.le_max_right _ _
  obtain ⟨more, hmore⟩ := Nat.exists_eq_add_of_le' hpos
  rw [indent_eq, hmore, Nat.add_sub_cancel, Nat.succ_mul, Nat.add_comm, Nat.add_le_add_iff_left]

/-- The markers that a reader finds are ASCII. -/
theorem width_marker {line : ItemLine} (hmarker : (listMarker? line.chars).isSome) :
    width line.marker = line.marker.length + 1 := by
  have hsigns : ∀ c ∈ ['-', '+', '*'] ++ ['.', ')'], c.toNat < 0x80 := by
    simp only [List.cons_append, List.nil_append, List.forall_mem_cons, List.not_mem_nil,
      false_implies, implies_true, and_true]
    decide
  have hdigits : ∀ c ∈ line.number.text, c.toNat < 0x80 := by
    refine List.forall_mem_map.mpr fun c hc => ?_
    exact Nat.lt_of_le_of_lt (Char.isDigit_iff_toNat.mp (line.isDigit c hc)).2 (by decide)
  have hascii : ∀ c ∈ line.marker ++ [' '], c.toNat < 0x80 :=
    List.forall_mem_append.mpr ⟨List.forall_mem_append.mpr ⟨hdigits,
      List.forall_mem_singleton.mpr (hsigns _ (line.sign_mem hmarker))⟩,
      List.forall_mem_singleton.mpr (by decide)⟩
  rw [width, firstLead, Utf8.encode_of_ascii hascii, List.length_map, List.length_append]
  rfl

/-- A further paragraph of an item is read in the item, and as a paragraph if it is indented by
at most three columns more than the content of the first line. -/
theorem readsInItem_indent : BlockReader.ReadsInItem marker (indent config marker)
    (if indent config marker ≤ width marker + 3 then .paragraph else .indentedCode) := by
  rintro first later rfl hmarker hindent column laterColumn
  have hwidth := width_marker hmarker
  have hreads := BlockReader.readsInItem (hwidth ▸ width_le_indent config first.marker)
  rw [hwidth]
  exact hreads first later rfl hmarker hindent column laterColumn

end ListItem

namespace Renderer

/-- Rendering leaves every item that it enters, and all lines that it delivers in between hang
behind the item's marker: the later ones behind an indent that is at least as wide as marker and
space, and just as wide without a multiple. A further paragraph is read in the item for every
multiple, and as a paragraph if the multiple adds at most three columns, but else as indented
code. -/
theorem render_itemIndent (config : Config) (strikethrough : Bool) (source : Bytes)
    (document : Document) :
    let log := (forMarkdown config strikethrough).visits .unlimited source document Document.root
    ∀ entered ∈ log, entered.phase = .enter → document.kind entered.id = .listItem →
      ∃ marker left pieces, marker = entered.before.itemMarker ∧ entered.IsLeftBy log left ∧
        let width := ListItem.width marker
        let indent := ListItem.indent config marker
        left.before.writer.sink.received.toList = entered.after.writer.sink.received.toList ++
          (decorate entered.before.writer.leads entered.after.writer.line
            (hang (ListItem.firstLead marker) (List.replicate indent 0x20) pieces)).map finished ∧
        width ≤ indent ∧ (config.nestedListLength ≤ 1 → indent = width) ∧
        (indent ≤ width + 3 ↔ (config.effectiveNestedListLength - 1) * width ≤ 3) ∧
        BlockReader.ReadsInItem marker indent
          (if indent ≤ width + 3 then .paragraph else .indentedCode) := by
  intro log entered hmem henter hkind
  obtain ⟨after, hrun, -⟩ := exists_render_unlimited config strikethrough source document
  obtain ⟨left, hleft⟩ := hrun.closesNodes entered hmem henter
  obtain ⟨pieces, hpieces⟩ := hleft.brings
  let marker := entered.before.itemMarker
  obtain ⟨marked, hmarker⟩ := exists_performs_itemMarker entered.before
  let scene : Scene := ⟨source, document, (forMarkdown config strikethrough).config⟩
  obtain ⟨start, -, hleads, hvisit⟩ := @exists_visit_item_enter config strikethrough scene
    entered.id entered.before marker marked hkind hmarker hleft.free
  have hentered := hrun.passes.visit_of_mem hmem
  rw [henter, hvisit] at hentered
  have hwriter : start.pushItem config marker = entered.after.writer := by
    rw [← config_forMarkdown config strikethrough]
    exact congrArg RenderState.writer (EStateM.Result.ok.inj hentered).2
  refine ⟨marker, left, pieces, rfl, hleft.isLeftBy, ?_, ListItem.width_le_indent config marker,
    ListItem.indent_eq_width config marker, ListItem.indent_le_iff config marker,
    ListItem.readsInItem_indent config marker⟩
  rw [hpieces.received, ← hwriter, ← ListItem.laterLead_eq, ← decorate_hang, ← hleads]
  rfl

/-- An item of two paragraphs. -/
def twoParagraphs : Document :=
  ⟨#[{ element := .document, firstChild := some 1, lastChild := some 1 },
    { element := .list 0x2D false 1, parent := some 0, firstChild := some 2,
      lastChild := some 2 },
    { element := .listItem, parent := some 1, firstChild := some 3, lastChild := some 5 },
    { element := .paragraph, parent := some 2, firstChild := some 4, lastChild := some 4,
      next := some 5 },
    { element := .plainText (.owned "a"), parent := some 3 },
    { element := .paragraph, parent := some 2, previous := some 3, firstChild := some 6,
      lastChild := some 6, blankBefore := true },
    { element := .plainText (.owned "b"), parent := some 5 }]⟩

/-- Without a multiple, the second paragraph is read as a paragraph of the item. -/
theorem render_itemIndent_twoParagraphs :
    let renderer := forMarkdown {} true
    let log := renderer.visits .unlimited [] twoParagraphs Document.root
    (renderer.render .unlimited [] twoParagraphs).2.writer.sink.received =
        #[Utf8.ofString "- a\n", Utf8.ofString "\n", Utf8.ofString "  b\n"] ∧
      ∃ entered ∈ log, entered.phase = .enter ∧ entered.id = 2 ∧
        BlockReader.ReadsInItem entered.before.itemMarker 2 .paragraph := by
  intro renderer log
  have hfound : log.any fun visit => visit.phase = .enter && visit.id = 2 &&
      visit.before.itemMarker = ['-'] := by
    decide +kernel
  obtain ⟨entered, hmem, hentered⟩ := List.any_eq_true.mp hfound
  have hvisit : (entered.phase = .enter ∧ entered.id = 2) ∧
      entered.before.itemMarker = ['-'] := by
    simpa using hentered
  have hkind : twoParagraphs.kind entered.id = .listItem := by
    rw [hvisit.1.2]
    rfl
  obtain ⟨marker, left, pieces, rfl, -, -, -, -, -, hreads⟩ :=
    render_itemIndent {} true [] twoParagraphs entered hmem hvisit.1.1 hkind
  refine ⟨by decide +kernel, entered, hmem, hvisit.1.1, hvisit.1.2, ?_⟩
  have hwidth : ListItem.width entered.before.itemMarker = 2 := by
    rw [hvisit.2]
    rfl
  rwa [ListItem.indent_eq_width _ _ (Nat.le_refl 1), hwidth] at hreads

/-- With three times the width for an indent, the second paragraph of an item is more than three
columns further in than its content. -/
theorem not_forall_render_itemIndent : ¬ ∀ config : Config, ∃ indent ≤ 2 + 3,
    ((forMarkdown config true).render .unlimited [] twoParagraphs).2.writer.sink.received[2]? =
      some (List.replicate indent 0x20 ++ Utf8.ofString "b\n") := by
  intro hall
  obtain ⟨indent, hle, hline⟩ := hall { nestedListLength := 3 }
  have hprinted : ((forMarkdown { nestedListLength := 3 } true).render .unlimited []
      twoParagraphs).2.writer.sink.received[2]? = some (Utf8.ofString "      b\n") := by
    decide +kernel
  have hlength := congrArg (Option.map List.length) (hline.symm.trans hprinted)
  simp only [Option.map_some, List.length_append, List.length_replicate, Option.some.injEq]
    at hlength
  have htail : (Utf8.ofString "b\n").length = 2 := by decide +kernel
  have hwhole : (Utf8.ofString "      b\n").length = 8 := by decide +kernel
  omega

end Renderer

namespace ListItem

/-- The largest number of an item that a reader takes. -/
def maxNumber : Nat :=
  999999999

/-- The largest number is the last one with nine digits. -/
theorem length_decimal_le_iff (number : Nat) :
    (Digits.decimal number).length ≤ 9 ↔ number ≤ maxNumber := by
  rw [Digits.decimal, Nat.length_toDigits_le_iff (by decide) (by decide), maxNumber]
  omega

/-- A reader takes the marker of a numbered item for one exactly if the number is not larger. -/
theorem isSome_listMarker?_marker_iff {bullet : UInt8} {number : Nat}
    (hsign : Char.ofNat bullet.toNat ∈ ['.', ')']) {line : ItemLine}
    (hline : line.marker = marker bullet true number) :
    (listMarker? line.chars).isSome ↔ number ≤ maxNumber := by
  obtain ⟨hnumber, hlast⟩ := List.append_inj' hline rfl
  have hdigits : line.number.text = Digits.decimal number := hnumber
  have hsame : line.sign.char = Char.ofNat bullet.toNat := List.head_eq_of_cons_eq hlast
  have hsome : line.number ≠ [] := by
    intro hnone
    rw [hnone] at hdigits
    exact Nat.toDigits_ne_nil hdigits.symm
  rw [line.isSome_listMarker?_iff hsome (hsame ▸ hsign), ← length_decimal_le_iff, ← hdigits,
    Chars.text, List.length_map]

end ListItem

namespace Renderer

/-- Rendering a document with its items in lists gives each item of an ordered list the start of
the list and the item's place there for a number. Where the start has at most nine digits, the
number has, too, just as far as the list does not count beyond them, and just as far a reader
takes it for a number. Where no list counts as far as `UInt64.size`, 64 bits hold the number. -/
theorem render_itemNumbers (config : Config) (strikethrough : Bool) (source : Bytes)
    {document : Document} (hitems : document.ItemsInLists) :
    let log := (forMarkdown config strikethrough).visits .unlimited source document Document.root
    ∀ entered ∈ log, entered.phase = .enter → document.kind entered.id = .listItem →
      ∃ list bullet ordered start position left,
        (document.node list).element = .list bullet ordered start ∧
        (document.children list)[position]? = some entered.id ∧ entered.IsLeftBy log left ∧
        let marker := ListItem.marker bullet ordered (start + position)
        entered.Marks document marker left ∧
        (document.CountsBelow UInt64.size → start + position < UInt64.size) ∧
        (start ≤ ListItem.maxNumber → ((Digits.decimal (start + position)).length ≤ 9 ↔
          position ≤ ListItem.maxNumber - start)) ∧
        (ordered → Char.ofNat bullet.toNat ∈ ['.', ')'] → ∀ line : ItemLine,
          line.marker = marker →
            ((listMarker? line.chars).isSome ↔ start + position ≤ ListItem.maxNumber)) := by
  intro log entered hmem henter hkind
  obtain ⟨bullet, ordered, number, left, hitem, hleft, hmarks⟩ :=
    showsItems_visits config strikethrough source hitems entered hmem henter hkind
  have hbound : document.CountsBelow UInt64.size → number < UInt64.size := hitem.number_lt
  obtain ⟨list, start, position, helement, hplace, rfl⟩ := hitem
  refine ⟨list, bullet, ordered, start, position, left, helement, hplace, hleft, hmarks, hbound,
    ?_, ?_⟩
  · intro hstart
    rw [ListItem.length_decimal_le_iff]
    exact (Nat.le_sub_iff_add_le' hstart).symm
  · rintro rfl hsign line hline
    exact ListItem.isSome_listMarker?_marker_iff hsign hline

/-- A list of two items that starts with the largest number. -/
def largestNumbers : Document :=
  ⟨#[{ element := .document, firstChild := some 1, lastChild := some 1 },
    { element := .list 0x2E true 999999999, parent := some 0, firstChild := some 2,
      lastChild := some 5 },
    { element := .listItem, parent := some 1, firstChild := some 3, lastChild := some 3,
      next := some 5 },
    { element := .textBlock, parent := some 2, firstChild := some 4, lastChild := some 4 },
    { element := .plainText (.owned "a"), parent := some 3 },
    { element := .listItem, parent := some 1, previous := some 2, firstChild := some 6,
      lastChild := some 6 },
    { element := .textBlock, parent := some 5, firstChild := some 7, lastChild := some 7 },
    { element := .plainText (.owned "b"), parent := some 6 }]⟩

/-- The second item has a number of ten digits. -/
theorem render_itemNumbers_largest :
    let renderer := forMarkdown {} true
    let log := renderer.visits .unlimited [] largestNumbers Document.root
    (renderer.render .unlimited [] largestNumbers).2.writer.sink.received =
        #[Utf8.ofString "999999999. a\n", Utf8.ofString "1000000000. b\n"] ∧
      ∃ entered ∈ log, entered.phase = .enter ∧ entered.id = 5 ∧
        ∃ bullet ordered number left, largestNumbers.IsItem 5 bullet ordered number ∧
          entered.IsLeftBy log left ∧
          entered.Marks largestNumbers (ListItem.marker bullet ordered number) left := by
  intro renderer log
  have hitems : largestNumbers.ItemsInLists := by decide +kernel
  have hfound : log.any fun visit => visit.phase = .enter && visit.id = 5 := by
    decide +kernel
  obtain ⟨entered, hmem, hentered⟩ := List.any_eq_true.mp hfound
  have hvisit : entered.phase = .enter ∧ entered.id = 5 := by
    simpa using hentered
  have hkind : largestNumbers.kind entered.id = .listItem := by
    rw [hvisit.2]
    rfl
  obtain ⟨list, bullet, ordered, start, position, left, helement, hplace, hleft, hmarks, -⟩ :=
    render_itemNumbers {} true [] hitems entered hmem hvisit.1 hkind
  rw [hvisit.2] at hplace
  exact ⟨by decide +kernel, entered, hmem, hvisit.1, hvisit.2, bullet, ordered, _, left,
    ⟨list, start, position, helement, hplace, rfl⟩, hleft, hmarks⟩

/-- A list may start with nine digits and count on with ten. -/
theorem not_forall_render_itemNumbers : ¬ ∀ (document : Document) (list : NodeId) (start : Nat),
    document.ItemsInLists → (document.node list).element = .list 0x2E true start →
    start ≤ ListItem.maxNumber →
    (((standard {}).visits .unlimited [] document Document.root).all fun visit =>
      visit.phase ≠ .enter || (document.node visit.id).parent ≠ some list ||
        (visit.before.itemMarker.takeWhile Char.isDigit).length ≤ 9) := by
  intro hall
  have hprinted := hall largestNumbers 1 999999999 (by decide +kernel) (by decide +kernel)
    (by decide +kernel)
  exact absurd hprinted (by decide +kernel)

end Renderer

end MarkdownFormat
