/-
# Link destinations are read back

A reader of a link counts the parentheses of a plain destination: the first closing one that
has no partner ends the link. Escaped punctuation does not count, and loses its backslash.
What is written for a destination is delimited for such a reader, whatever parentheses are in
it: those that are balanced stand as they are, and if they are not, all of them are escaped.
-/

import MarkdownFormat.Render.Inline
import MarkdownFormat.Text.Punctuation

namespace MarkdownFormat.LinkTarget

/-- A text without the backslashes that escape punctuation in it. -/
def unescaped : List Char → List Char
  | [] => []
  | '\\' :: c :: rest =>
      if isAsciiPunctuation c then c :: unescaped rest else '\\' :: unescaped (c :: rest)
  | c :: rest => c :: unescaped rest

/-- What has been read, with some characters in front of the text that was taken. -/
def behind (front : List Char) :
    Option (List Char × List Char) → Option (List Char × List Char) :=
  Option.map fun taken => (front ++ taken.1, taken.2)

/-- A plain destination at the start of some text and what follows it, given how many
parentheses are open. It ends before a blank, a control or a closing parenthesis without a
partner, and there is none if an opening parenthesis is without a partner then. -/
def plainFrom? (depth : Nat) : List Char → Option (List Char × List Char)
  | [] => if depth = 0 then some ([], []) else none
  | '\\' :: c :: rest =>
      if isAsciiPunctuation c then behind ['\\', c] (plainFrom? depth rest)
      else behind ['\\'] (plainFrom? depth (c :: rest))
  | '(' :: rest => behind ['('] (plainFrom? (depth + 1) rest)
  | ')' :: rest =>
      if depth = 0 then some ([], ')' :: rest) else behind [')'] (plainFrom? (depth - 1) rest)
  | c :: rest =>
      if needsBrackets c then if depth = 0 then some ([], c :: rest) else none
      else behind [c] (plainFrom? depth rest)

/-- A plain destination at the start of some text and what follows it. An angle bracket
starts a destination of the other form. -/
def plain? : List Char → Option (List Char × List Char)
  | '<' :: _ => none
  | text => plainFrom? 0 text

section Reading

variable {c : Char} {depth : Nat} (rest : List Char)

/-- Other characters than a backslash stand for themselves. -/
theorem unescaped_cons (hc : c ≠ '\\') : unescaped (c :: rest) = c :: unescaped rest := by
  rw [unescaped]
  rintro d rest rfl
  exact absurd rfl hc

/-- A backslash before punctuation is taken away. -/
theorem unescaped_escape (hc : isAsciiPunctuation c) :
    unescaped ('\\' :: c :: rest) = c :: unescaped rest := by
  rw [unescaped, if_pos hc]

/-- A character that is neither a parenthesis nor a backslash belongs to the destination. -/
theorem plainFrom?_cons (hplain : needsBrackets c = false) (hescape : c ≠ '\\')
    (hparen : ['(', ')'].contains c = false) :
    plainFrom? depth (c :: rest) = behind [c] (plainFrom? depth rest) := by
  have hopening : c ≠ '(' := by
    rintro rfl
    cases hparen
  have hclosing : c ≠ ')' := by
    rintro rfl
    cases hparen
  rw [plainFrom?, hplain]
  · rfl
  · rintro d rest rfl
    exact absurd rfl hescape
  · exact hopening
  · exact hclosing

/-- An escaped character is read over. -/
theorem plainFrom?_escape (hc : isAsciiPunctuation c) :
    plainFrom? depth ('\\' :: c :: rest) = behind ['\\', c] (plainFrom? depth rest) := by
  rw [plainFrom?, if_pos hc]

end Reading

section Writing

variable {text : List Char}

/-- Without backslashes nothing is taken away. -/
theorem unescaped_of_forall (hplain : ∀ c ∈ text, c ≠ '\\') : unescaped text = text := by
  induction text with
  | nil => rfl
  | cons c rest ih =>
      obtain ⟨hc, hrest⟩ := List.forall_mem_cons.mp hplain
      rw [unescaped_cons rest hc, ih hrest]

/-- Each character is escaped for itself. -/
theorem escapeAll_cons (special : List Char) (c : Char) (rest : List Char) :
    escapeAll special (c :: rest) =
      (if special.contains c then ['\\', c] else [c]) ++ escapeAll special rest :=
  List.flatMap_cons

/-- Escaped punctuation reads as what it was. -/
theorem unescaped_escapeAll {special : List Char} (hspecial : ∀ c ∈ special, isAsciiPunctuation c)
    (hplain : ∀ c ∈ text, c ≠ '\\') : unescaped (escapeAll special text) = text := by
  induction text with
  | nil => rfl
  | cons c rest ih =>
      obtain ⟨hc, hrest⟩ := List.forall_mem_cons.mp hplain
      rw [escapeAll_cons]
      split
      case isTrue hmem =>
        have hpunctuation := hspecial c (List.contains_iff_mem.mp hmem)
        show unescaped ('\\' :: c :: escapeAll special rest) = _
        rw [unescaped_escape _ hpunctuation, ih hrest]
      case isFalse =>
        show unescaped (c :: escapeAll special rest) = _
        rw [unescaped_cons _ hc, ih hrest]

variable (hplain : ∀ c ∈ text, needsBrackets c = false ∧ c ≠ '\\') (rest : List Char)
include hplain

/-- A text whose parentheses are balanced behind those that are open is read up to a closing
parenthesis behind it. -/
theorem plainFrom?_of_balancedFrom {depth : Nat} (hbalanced : balancedFrom depth text) :
    plainFrom? depth (text ++ ')' :: rest) = some (text, ')' :: rest) := by
  induction text generalizing depth with
  | nil =>
      have hclosed : depth = 0 := of_decide_eq_true hbalanced
      rw [hclosed]
      rfl
  | cons c text ih =>
      obtain ⟨⟨hc, hescape⟩, htext⟩ := List.forall_mem_cons.mp hplain
      rw [List.cons_append]
      unfold balancedFrom at hbalanced
      split at hbalanced
      case h_1 heq => cases heq
      case h_2 heq =>
        cases heq
        rw [plainFrom?, ih htext hbalanced]
        rfl
      case h_3 heq =>
        cases heq
        rw [Bool.and_eq_true, decide_eq_true_eq] at hbalanced
        rw [plainFrom?, if_neg hbalanced.1, ih htext hbalanced.2]
        rfl
      case h_4 hopening hclosing heq =>
        cases heq
        have hparen : ['(', ')'].contains c = false := by
          simpa using ⟨hopening, hclosing⟩
        rw [plainFrom?_cons _ hc hescape hparen, ih htext hbalanced]
        rfl

/-- A text whose parentheses are escaped is read up to a closing parenthesis behind it. -/
theorem plainFrom?_escapeAll :
    plainFrom? 0 (escapeAll ['(', ')'] text ++ ')' :: rest) =
      some (escapeAll ['(', ')'] text, ')' :: rest) := by
  induction text with
  | nil => rfl
  | cons c text ih =>
      obtain ⟨⟨hc, hescape⟩, htext⟩ := List.forall_mem_cons.mp hplain
      rw [escapeAll_cons, List.append_assoc]
      split
      case isTrue hparen =>
        have hpunctuation : isAsciiPunctuation c := by
          have hmem : c = '(' ∨ c = ')' := by simpa using hparen
          rcases hmem with rfl | rfl <;> rfl
        show plainFrom? 0 ('\\' :: c :: (escapeAll _ text ++ _)) = _
        rw [plainFrom?_escape _ hpunctuation, ih htext]
        rfl
      case isFalse hparen =>
        show plainFrom? 0 (c :: (escapeAll _ text ++ _)) = _
        rw [plainFrom?_cons _ hc hescape (Bool.not_eq_true _ ▸ hparen), ih htext]
        rfl

/-- A destination that needs no brackets and starts with none is written in such a way that
a reader takes just what is written for it, up to the closing parenthesis of the link, and
gets the destination back from it. Open parentheses are counted without a bound, as
`balancedFrom` says. -/
theorem plain?_destination (hstart : text.head? ≠ some '<') :
    plain? (destination text ++ ')' :: rest) = some (destination text, ')' :: rest) ∧
      unescaped (destination text) = text := by
  have hbrackets : text.any needsBrackets = false := by
    rw [List.any_eq_false]
    exact fun c hc => by rw [(hplain c hc).1]; nofun
  have hescapes : ∀ c ∈ text, c ≠ '\\' := fun c hc => (hplain c hc).2
  have hread : ∀ spelled : List Char, spelled.head? ≠ some '<' →
      plain? (spelled ++ ')' :: rest) = plainFrom? 0 (spelled ++ ')' :: rest) := by
    intro spelled hspelled
    rw [plain?]
    intro after hafter
    cases spelled with
    | nil => cases hafter
    | cons c spelled =>
        cases hafter
        exact hspelled rfl
  rw [destination, hbrackets, if_neg Bool.false_ne_true]
  split
  case isTrue hbalanced =>
    rw [hread text hstart]
    exact ⟨plainFrom?_of_balancedFrom hplain rest hbalanced, unescaped_of_forall hescapes⟩
  case isFalse =>
    have hescaped : (escapeAll ['(', ')'] text).head? ≠ some '<' := by
      cases text with
      | nil => nofun
      | cons c text =>
          rw [escapeAll_cons]
          split
          · nofun
          · exact hstart
    rw [hread _ hescaped]
    refine ⟨plainFrom?_escapeAll hplain rest, unescaped_escapeAll ?_ hescapes⟩
    simp only [List.forall_mem_cons, List.not_mem_nil, false_implies, implies_true, and_true]
    decide

end Writing

/-- As many parentheses open as close, but not in this order. -/
theorem plain?_destination_reversed :
    let text := "a)b(é".toList
    (∀ c ∈ text, needsBrackets c = false ∧ c ≠ '\\') ∧ text.head? ≠ some '<' ∧
      destination text = "a\\)b\\(é".toList ∧
      plain? "a\\)b\\(é) (".toList = some ("a\\)b\\(é".toList, ") (".toList) ∧
      unescaped "a\\)b\\(é".toList = text := by
  have hall : ("a)b(é".toList.all fun c => !needsBrackets c && c != '\\') = true := by decide
  have hplain : ∀ c ∈ "a)b(é".toList, needsBrackets c = false ∧ c ≠ '\\' := fun c hc => by
    simpa using List.all_eq_true.mp hall c hc
  have hstart : "a)b(é".toList.head? ≠ some '<' := by decide
  have hwritten : destination "a)b(é".toList = "a\\)b\\(é".toList := by decide
  obtain ⟨hread, hback⟩ := plain?_destination hplain " (".toList hstart
  rw [hwritten] at hread hback
  exact ⟨hplain, hstart, hwritten, hread, hback⟩

end MarkdownFormat.LinkTarget
