/-
# Link targets between delimiters

A destination that its plain form cannot carry stands between angle brackets, and a title
between double quotes. A reader takes what comes before the first closing delimiter without
a backslash in front of it, and then drops the backslashes that escape punctuation. The
delimiters inside are written with such backslashes, but the backslashes that were there
before are not. So the text is read back exactly if none of them escapes anything: each
stands in front of a character that is no punctuation, and none at the end, where it would
escape the closing delimiter.
-/

import MarkdownFormat.Proofs.Render.LinkTarget
import MarkdownFormat.Proofs.Render.Pairing

namespace MarkdownFormat.LinkTarget

/-- Whether no backslash of a text escapes what follows it, be it in the text or behind it. -/
def escapesNothing : List Char → Bool
  | [] => true
  | c :: rest =>
      (c ≠ '\\' || rest.head?.any fun next => !isAsciiPunctuation next) && escapesNothing rest

/-- What stands before the first closing character that is not escaped, and what follows
that character. There is none if a refused character comes first, unless that is escaped. -/
def upTo? (closing : Char) (refused : Char → Bool) : List Char → Option (List Char × List Char)
  | [] => none
  | '\\' :: c :: rest =>
      if isAsciiPunctuation c then behind ['\\', c] (upTo? closing refused rest)
      else behind ['\\'] (upTo? closing refused (c :: rest))
  | c :: rest =>
      if c = closing then some ([], rest)
      else if refused c then none
      else behind [c] (upTo? closing refused rest)

/-- A destination between angle brackets at the start of some text, without the brackets, and
what follows it. It holds no line ending and no further opening bracket. -/
def bracketed? : List Char → Option (List Char × List Char)
  | '<' :: rest => upTo? '>' (fun c => c = '<' || isLineEnd c) rest
  | _ => none

/-- A title between double quotes at the start of some text, without the quotes, and what
follows it. -/
def quoted? : List Char → Option (List Char × List Char)
  | '"' :: rest => upTo? '"' (fun _ => false) rest
  | _ => none

section Reading

variable {c : Char} {rest text : List Char}

/-- Something is read behind a front if it is read without it. -/
theorem behind_eq_some_iff {front : List Char} {taken : Option (List Char × List Char)} :
    behind front taken = some (front ++ text, rest) ↔ taken = some (text, rest) := by
  cases taken <;> simp [behind, Prod.ext_iff]

/-- A backslash before any other character than punctuation stands for itself. -/
theorem unescaped_plain (hc : isAsciiPunctuation c = false) :
    unescaped ('\\' :: c :: rest) = '\\' :: unescaped (c :: rest) := by
  rw [unescaped, if_neg (Bool.eq_false_iff.mp hc)]

/-- Other characters do not matter. -/
theorem escapesNothing_cons (hc : c ≠ '\\') :
    escapesNothing (c :: rest) = escapesNothing rest := by
  simp [escapesNothing, hc]

/-- A backslash must not stand before punctuation. -/
theorem escapesNothing_backslash :
    escapesNothing ('\\' :: c :: rest) = (!isAsciiPunctuation c && escapesNothing (c :: rest)) := by
  simp [escapesNothing]

/-- Dropping backslashes adds nothing. -/
theorem unescaped_sublist (text : List Char) : (unescaped text).Sublist text := by
  fun_induction unescaped text with
  | case1 => exact .slnil
  | case2 c rest _ ih => exact (ih.cons_cons c).cons '\\'
  | case3 c rest _ ih => exact ih.cons_cons '\\'
  | case4 c rest _ ih => exact ih.cons_cons c

section UpTo

variable {closing : Char} {refused : Char → Bool}

/-- What is escaped closes nothing. -/
theorem upTo?_escape (hc : isAsciiPunctuation c) :
    upTo? closing refused ('\\' :: c :: rest) = behind ['\\', c] (upTo? closing refused rest) := by
  rw [upTo?, if_pos hc]

/-- A backslash that escapes nothing is read over. -/
theorem upTo?_backslash (hc : isAsciiPunctuation c = false) :
    upTo? closing refused ('\\' :: c :: rest) =
      behind ['\\'] (upTo? closing refused (c :: rest)) := by
  rw [upTo?, if_neg (Bool.eq_false_iff.mp hc)]

/-- Any other character closes, is refused or is read over. -/
theorem upTo?_cons (hc : c ≠ '\\') :
    upTo? closing refused (c :: rest) =
      if c = closing then some ([], rest)
      else if refused c then none
      else behind [c] (upTo? closing refused rest) := by
  rw [upTo?]
  rintro next rest rfl
  exact absurd rfl hc

end UpTo

end Reading

section Writing

variable {special : List Char} {closing : Char} {refused : Char → Bool} {text : List Char}

/-- Special characters get a backslash. -/
theorem escapeAll_special {c : Char} (hc : c ∈ special) (rest : List Char) :
    escapeAll special (c :: rest) = '\\' :: c :: escapeAll special rest := by
  rw [escapeAll_cons, if_pos (List.contains_iff_mem.mpr hc)]
  rfl

/-- Others do not. -/
theorem escapeAll_other {c : Char} (hc : c ∉ special) (rest : List Char) :
    escapeAll special (c :: rest) = c :: escapeAll special rest := by
  rw [escapeAll_cons, if_neg (mt List.contains_iff_mem.mp hc)]
  rfl

/-- Escapes add no character but backslashes. -/
theorem count_escapeAll {c : Char} (hc : c ≠ '\\') (text : List Char) :
    (escapeAll special text).count c = text.count c := by
  induction text with
  | nil => rfl
  | cons first rest ih =>
      by_cases hfirst : first ∈ special
      · rw [escapeAll_special hfirst, List.count_cons_of_ne hc.symm, List.count_cons,
          List.count_cons, ih]
      · rw [escapeAll_other hfirst, List.count_cons, List.count_cons, ih]

section Backslashes

variable (hpunctuation : ∀ c ∈ special, isAsciiPunctuation c) (hbackslash : '\\' ∉ special)
include hpunctuation hbackslash

/-- Reading escaped text drops at least the backslashes that were added, also behind another
backslash. -/
theorem length_unescaped_escapeAll_le (text : List Char) :
    (unescaped (escapeAll special text)).length ≤ text.length ∧
      (unescaped ('\\' :: escapeAll special text)).length ≤ text.length + 1 := by
  have hslash : isAsciiPunctuation '\\' := rfl
  induction text with
  | nil => exact ⟨Nat.le_refl 0, Nat.le_refl 1⟩
  | cons c rest ih =>
      obtain ⟨hrest, hbehind⟩ := ih
      by_cases hc : c ∈ special
      · have hne : c ≠ '\\' := fun heq => hbackslash (heq ▸ hc)
        rw [escapeAll_special hc, unescaped_escape _ (hpunctuation c hc), unescaped_escape _ hslash,
          unescaped_cons _ hne]
        simp only [List.length_cons]
        omega
      · rw [escapeAll_other hc]
        cases hmark : isAsciiPunctuation c with
        | true =>
            rw [unescaped_escape _ hmark]
            refine ⟨?_, by simp only [List.length_cons]; omega⟩
            by_cases hslash : c = '\\'
            · rw [hslash]
              exact hbehind
            · rw [unescaped_cons _ hslash]
              exact Nat.succ_le_succ hrest
        | false =>
            have hne : c ≠ '\\' := by
              rintro rfl
              cases hmark
            rw [unescaped_plain hmark, unescaped_cons _ hne]
            simp only [List.length_cons]
            omega

/-- A backslash that was there before escapes the punctuation behind it, and is lost. -/
theorem unescaped_escapeAll_ne {c : Char} (hc : isAsciiPunctuation c) (hplain : c ∉ special) :
    unescaped (escapeAll special ('\\' :: c :: text)) ≠ '\\' :: c :: text := by
  rw [escapeAll_other hbackslash, escapeAll_other hplain, unescaped_escape _ hc]
  intro heq
  have hlength := congrArg List.length heq
  have hle := (length_unescaped_escapeAll_le hpunctuation hbackslash text).1
  simp only [List.length_cons] at hlength
  omega

end Backslashes

/-- Whether a text is read back from what is written for it in front of a closing delimiter:
the reader stops at that delimiter and, without the escapes, has the text. -/
def ReadsBack (special : List Char) (closing : Char) (refused : Char → Bool)
    (text rest : List Char) : Prop :=
  upTo? closing refused (escapeAll special text ++ closing :: rest) =
      some (escapeAll special text, rest) ∧
    unescaped (escapeAll special text) = text

/-- What must be escaped between delimiters: the closing one and whatever is refused there, as
long as a backslash can escape it. -/
structure Guards (special : List Char) (closing : Char) (refused : Char → Bool) : Prop where
  punctuation : ∀ c ∈ special, isAsciiPunctuation c
  backslash : '\\' ∉ special
  closing_mem : closing ∈ special
  unwelcome : ∀ c ∈ special, c = closing ∨ refused c
  accepts : refused '\\' = false

namespace Guards

variable (hguards : Guards special closing refused) {c : Char} (rest : List Char)
include hguards

/-- The backslash is not special. -/
theorem ne_backslash (hc : c ∈ special) : c ≠ '\\' :=
  fun heq => hguards.backslash (heq ▸ hc)

/-- An empty text reads back. -/
theorem readsBack_nil : ReadsBack special closing refused [] rest := by
  have hread : upTo? closing refused (closing :: rest) = some ([], rest) := by
    rw [upTo?_cons (hguards.ne_backslash hguards.closing_mem), if_pos rfl]
  exact ⟨hread, rfl⟩

/-- Escaped characters do not matter. -/
theorem readsBack_special_iff (hc : c ∈ special) :
    ReadsBack special closing refused (c :: text) rest ↔
      ReadsBack special closing refused text rest := by
  have hmark := hguards.punctuation c hc
  have hspelled : '\\' :: c :: escapeAll special text = ['\\', c] ++ escapeAll special text := rfl
  rw [ReadsBack, escapeAll_special hc, List.cons_append, List.cons_append, upTo?_escape hmark,
    unescaped_escape _ hmark, hspelled, behind_eq_some_iff, List.cons.injEq, and_iff_right rfl]
  rfl

/-- Any other character stands for itself, unless it is refused. -/
theorem readsBack_other_iff (hc : c ∉ special) (hslash : c ≠ '\\') :
    ReadsBack special closing refused (c :: text) rest ↔
      refused c = false ∧ ReadsBack special closing refused text rest := by
  have hother : c ≠ closing := fun heq => hc (heq ▸ hguards.closing_mem)
  have hspelled : c :: escapeAll special text = [c] ++ escapeAll special text := rfl
  rw [ReadsBack, escapeAll_other hc, List.cons_append, upTo?_cons hslash, if_neg hother]
  cases refused c with
  | true => exact iff_of_false (fun h => nomatch h.1) (fun h => nomatch h.1)
  | false =>
      rw [if_neg Bool.false_ne_true, hspelled, behind_eq_some_iff, ← hspelled,
        unescaped_cons _ hslash, List.cons.injEq, and_iff_right rfl, and_iff_right rfl]
      rfl

/-- A backslash at the end escapes the closing delimiter. -/
theorem not_readsBack_backslash : ¬ ReadsBack special closing refused ['\\'] rest := by
  rintro ⟨hread, -⟩
  rw [escapeAll_other hguards.backslash] at hread
  have hread : upTo? closing refused ('\\' :: closing :: rest) = some (['\\'], rest) := hread
  rw [upTo?_escape (hguards.punctuation closing hguards.closing_mem), behind,
    Option.map_eq_some_iff] at hread
  obtain ⟨taken, -, htaken⟩ := hread
  cases htaken

/-- An unescaped character that should have been escaped is never part of what is read. -/
theorem upTo?_ne (hc : c ∈ special) (after : List Char) :
    upTo? closing refused (c :: after) ≠ some (c :: text, rest) := by
  rw [upTo?_cons (hguards.ne_backslash hc)]
  split
  case isTrue => simp
  case isFalse hother =>
    rw [if_pos ((hguards.unwelcome c hc).resolve_left hother)]
    nofun

/-- A backslash in front of punctuation is lost: it escapes what follows, which is that
character or the backslash that is written to escape it. -/
theorem not_readsBack_punctuation (hc : isAsciiPunctuation c) :
    ¬ ReadsBack special closing refused ('\\' :: c :: text) rest := by
  rintro ⟨hread, hback⟩
  by_cases hspecial : c ∈ special
  · rw [escapeAll_other hguards.backslash, escapeAll_special hspecial] at hread
    have hread : upTo? closing refused
        ('\\' :: '\\' :: c :: (escapeAll special text ++ closing :: rest)) =
        some (['\\', '\\'] ++ c :: escapeAll special text, rest) := hread
    rw [upTo?_escape rfl, behind_eq_some_iff] at hread
    exact hguards.upTo?_ne rest hspecial _ hread
  · exact unescaped_escapeAll_ne hguards.punctuation hguards.backslash hc hspecial hback

/-- Any other backslash stands for itself. -/
theorem readsBack_backslash_iff (hc : isAsciiPunctuation c = false) :
    ReadsBack special closing refused ('\\' :: c :: text) rest ↔
      ReadsBack special closing refused (c :: text) rest := by
  have hplain : c ∉ special := fun hmem => by
    rw [hguards.punctuation c hmem] at hc
    cases hc
  have hspelled : '\\' :: c :: escapeAll special text = ['\\'] ++ c :: escapeAll special text := rfl
  rw [ReadsBack, ReadsBack, escapeAll_other hguards.backslash, escapeAll_other hplain,
    List.cons_append, List.cons_append, upTo?_backslash hc, hspelled, behind_eq_some_iff,
    ← hspelled, unescaped_plain hc, List.cons.injEq, and_iff_right rfl]

/-- A text is read back exactly if it holds no refused character other than the escaped ones
and none of its backslashes escapes anything. -/
theorem readsBack_iff (text : List Char) :
    ReadsBack special closing refused text rest ↔
      (∀ c ∈ text, refused c → c ∈ special) ∧ escapesNothing text := by
  induction text with
  | nil => exact iff_of_true (hguards.readsBack_nil rest) ⟨nofun, rfl⟩
  | cons c text ih =>
      by_cases hslash : c = '\\'
      case neg =>
        rw [escapesNothing_cons hslash, List.forall_mem_cons]
        by_cases hspecial : c ∈ special
        · rw [hguards.readsBack_special_iff rest hspecial, and_iff_right fun _ => hspecial]
          exact ih
        · rw [hguards.readsBack_other_iff rest hspecial hslash, and_assoc, ← ih,
            Bool.eq_false_iff]
          exact and_congr_left fun _ => ⟨fun h hrefused => absurd hrefused h,
            fun h hrefused => hspecial (h hrefused)⟩
      case pos =>
        subst hslash
        have haccepts : refused '\\' = true → '\\' ∈ special := by
          rw [hguards.accepts]
          nofun
        rw [List.forall_mem_cons, and_iff_right haccepts]
        cases text with
        | nil => exact iff_of_false (hguards.not_readsBack_backslash rest) (fun h => nomatch h.2)
        | cons next text =>
            rw [escapesNothing_backslash]
            cases hmark : isAsciiPunctuation next with
            | true =>
                exact iff_of_false (hguards.not_readsBack_punctuation rest hmark)
                  (fun h => nomatch h.2)
            | false =>
                rw [hguards.readsBack_backslash_iff rest hmark]
                exact ih

end Guards

end Writing

/-- Whether what is written for a destination is one between angle brackets, from which the
destination is read back in front of some other text. -/
def IsReadBracketed (text rest : List Char) : Prop :=
  ∃ content, destination text = '<' :: (content ++ ['>']) ∧
    bracketed? (destination text ++ rest) = some (content, rest) ∧ unescaped content = text

/-- A destination between brackets is guarded. -/
theorem guards_brackets : Guards ['<', '>'] '>' fun c => c = '<' || isLineEnd c where
  punctuation := List.forall_mem_cons.mpr ⟨rfl, List.forall_mem_singleton.mpr rfl⟩
  backslash := by decide
  closing_mem := by decide
  unwelcome := List.forall_mem_cons.mpr ⟨.inr rfl, List.forall_mem_singleton.mpr (.inl rfl)⟩
  accepts := rfl

/-- Without a blank or control in it, a destination is not put between brackets: an opening
bracket of its own would be missing in what is read. -/
theorem not_isReadBracketed {text : List Char} (hplain : text.any needsBrackets = false)
    (rest : List Char) : ¬ IsReadBracketed text rest := by
  rintro ⟨content, hwritten, -, hback⟩
  have hcount : (destination text).count '<' = text.count '<' := by
    rw [destination, hplain, if_neg Bool.false_ne_true]
    split
    · rfl
    · exact count_escapeAll (by decide) text
  have hle : text.count '<' ≤ content.count '<' := by
    have hsublist := unescaped_sublist content
    rw [hback] at hsublist
    exact hsublist.count_le '<'
  rw [hwritten, List.count_cons_self, List.count_append] at hcount
  omega

/-- Of the characters that are refused between angle brackets, only line endings are not
escaped there. -/
theorem forall_refused_iff (text : List Char) :
    (∀ c ∈ text, (c = '<' || isLineEnd c) = true → c ∈ ['<', '>']) ↔
      text.any isLineEnd = false := by
  rw [List.any_eq_false]
  refine forall₂_congr fun c _ => ?_
  constructor
  · intro h hend
    have hmem := h (by simp [hend])
    simp only [List.mem_cons, List.not_mem_nil, or_false] at hmem
    rcases hmem with rfl | rfl <;> cases hend
  · intro h hrefused
    simp only [h, Bool.or_false, decide_eq_true_eq] at hrefused
    simp [hrefused]

/-- What is written for a destination is one between angle brackets from which the destination
is read back exactly if the destination holds a blank or a control but no line ending, and
none of its backslashes escapes anything. -/
theorem isReadBracketed_iff (text rest : List Char) :
    IsReadBracketed text rest ↔
      text.any needsBrackets ∧ text.any isLineEnd = false ∧ escapesNothing text := by
  cases hneeds : text.any needsBrackets with
  | false => exact iff_of_false (not_isReadBracketed hneeds rest) (fun h => nomatch h.1)
  | true =>
      have hwritten : destination text = '<' :: (escapeAll ['<', '>'] text ++ ['>']) := by
        rw [destination, if_pos hneeds]
        rfl
      have hspelled : bracketed? (destination text ++ rest) =
          upTo? '>' (fun c => c = '<' || isLineEnd c)
            (escapeAll ['<', '>'] text ++ '>' :: rest) := by
        rw [hwritten, List.cons_append, List.append_assoc]
        rfl
      rw [and_iff_right rfl, ← forall_refused_iff, ← guards_brackets.readsBack_iff rest]
      constructor
      · rintro ⟨content, hcontent, hread, hback⟩
        rw [hwritten, List.cons.injEq, List.append_left_inj] at hcontent
        rw [← hcontent.2] at hread hback
        exact ⟨hspelled.symm.trans hread, hback⟩
      · rintro ⟨hread, hback⟩
        exact ⟨_, hwritten, hspelled.trans hread, hback⟩

/-- A backslash at the end of a destination escapes the closing bracket. -/
theorem not_forall_isReadBracketed : ¬ ∀ text rest : List Char,
    text.any needsBrackets ∨ text.head? = some '<' → IsReadBracketed text rest := by
  intro hall
  obtain ⟨content, -, hread, -⟩ := hall "a b\\".toList [')'] (.inl (by decide))
  have hnone : bracketed? (destination "a b\\".toList ++ [')']) = none := by decide
  rw [hread] at hnone
  cases hnone

/-- A title between quotes is guarded. -/
theorem guards_quotes : Guards ['"'] '"' fun _ => false where
  punctuation := List.forall_mem_singleton.mpr rfl
  backslash := by decide
  closing_mem := by decide
  unwelcome := List.forall_mem_singleton.mpr (.inl rfl)
  accepts := rfl

/-- A link or an image is left with its destination and its title. -/
theorem dispatch_exit_target (config : Config) (strikethrough : Bool) {scene : Scene} {id : NodeId}
    {state : RenderState} {destination title : String}
    (htarget : (scene.node id).element = .link destination title ∨
      (scene.node id).element = .image destination title) :
    (Renderer.forMarkdown config strikethrough).dispatch scene id .exit state =
      .ok .proceed { state with
        writer := state.writer.put (Utf8.encode (tail destination title)) } := by
  have hfunction : ∀ {kind : Kind} {render : RenderFn}, scene.document.kind id = kind →
      kind ≠ .strikethrough → Renderer.builtIn kind = some render →
      (Renderer.forMarkdown config strikethrough).dispatch scene id = render scene id := by
    intro kind render hkind hne hrender
    funext phase
    have hfunction : (Renderer.forMarkdown config strikethrough).functions
        (scene.document.kind id) = some render := by
      rw [hkind, Renderer.functions_forMarkdown, if_neg (fun h => hne h.2), hrender]
    simp only [Renderer.dispatch, hfunction]
  have hrun : state.writer.run? [.write (Utf8.encode (tail destination title))] =
      some (state.writer.put (Utf8.encode (tail destination title))) := rfl
  rcases htarget with helement | helement
  · have hkind : scene.document.kind id = .link := congrArg Element.kind helement
    rw [hfunction hkind (by decide) rfl]
    exact performs_link_exit helement _ _ hrun
  · have hkind : scene.document.kind id = .image := congrArg Element.kind helement
    rw [hfunction hkind (by decide) rfl]
    exact performs_image_exit helement _ _ hrun

/-- On leaving a link or an image with a title, what is written behind the destination is a
space, the title between double quotes and the closing parenthesis. A reader stops at the
last of these quotes and has the title back exactly if none of its backslashes escapes
anything. -/
theorem dispatch_exit_title_iff (config : Config) (strikethrough : Bool) {scene : Scene}
    {id : NodeId} {destination title : String} (state : RenderState)
    (htarget : (scene.node id).element = .link destination title ∨
      (scene.node id).element = .image destination title) (htitle : title ≠ "") :
    let spelled := escapeAll ['"'] title.toList
    (Renderer.forMarkdown config strikethrough).dispatch scene id .exit state =
        .ok .proceed { state with
          writer := state.writer.put (Utf8.encode (
            [']', '('] ++ LinkTarget.destination destination.toList ++
              ([' ', '"'] ++ spelled ++ ['"', ')']))) } ∧
      ∀ rest, quoted? ('"' :: (spelled ++ '"' :: ')' :: rest)) = some (spelled, ')' :: rest) ∧
          unescaped spelled = title.toList ↔ escapesNothing title.toList := by
  intro spelled
  have hsome : title.toList ≠ [] := fun h => htitle (String.toList_eq_nil_iff.mp h)
  have hwritten : tail destination title =
      [']', '('] ++ LinkTarget.destination destination.toList ++
        ([' ', '"'] ++ spelled ++ ['"', ')']) := by
    rw [tail, LinkTarget.title, if_neg hsome]
    simp only [spelled, List.append_assoc, List.cons_append, List.nil_append]
  constructor
  · rw [← hwritten]
    exact dispatch_exit_target config strikethrough htarget
  · intro rest
    have hback := guards_quotes.readsBack_iff (')' :: rest) title.toList
    rw [and_iff_right (fun _ _ h => nomatch h)] at hback
    exact hback

/-- Quotes are escaped, and backslashes that escape nothing are kept. -/
theorem dispatch_exit_title_iff_path :
    let title := "C:\\dir \"é\""
    let scene : Scene := ⟨[], ⟨#[{ element := .image "u" title }]⟩, {}⟩
    let state : RenderState := { writer := LineWriter.onto .unlimited }
    let spelled := "C:\\dir \\\"é\\\"".toList
    (scene.node 0).element = .image "u" title ∧ title ≠ "" ∧ escapesNothing title.toList ∧
      (Renderer.forMarkdown {} true).dispatch scene 0 .exit state = .ok .proceed { state with
        writer := state.writer.put (Utf8.ofString "](u \"C:\\dir \\\"é\\\"\")") } ∧
      quoted? "\"C:\\dir \\\"é\\\"\")".toList = some (spelled, [')']) ∧
      unescaped spelled = title.toList := by
  intro title scene state spelled
  have htitle : title ≠ "" := by decide
  have hescapes : escapesNothing title.toList := by decide
  have hspelled : escapeAll ['"'] title.toList = spelled := by decide
  obtain ⟨hwritten, hread⟩ := @dispatch_exit_title_iff {} true scene 0 "u" title state
    (.inr rfl) htitle
  obtain ⟨hquoted, hback⟩ := (hread []).mpr hescapes
  rw [hspelled] at hwritten hquoted hback
  exact ⟨rfl, htitle, hescapes, hwritten, hquoted, hback⟩

/-- A backslash at the end of a title escapes the closing quote. -/
theorem not_forall_render_title : ¬ ∀ (destination title : String) (rest : List Char),
    title ≠ "" → ∃ spelled,
      tail destination title = [']', '('] ++ LinkTarget.destination destination.toList ++
        ([' ', '"'] ++ spelled ++ ['"', ')']) ∧
      quoted? ('"' :: (spelled ++ '"' :: ')' :: rest)) = some (spelled, ')' :: rest) ∧
      unescaped spelled = title.toList := by
  intro hall
  obtain ⟨spelled, hwritten, hread, -⟩ := hall "u" "a\\" [] (by decide)
  have hshown : tail "u" "a\\" = [']', '('] ++ LinkTarget.destination "u".toList ++
      ([' ', '"'] ++ "a\\".toList ++ ['"', ')']) := by decide
  rw [hshown, List.append_right_inj, List.append_left_inj, List.append_right_inj] at hwritten
  rw [← hwritten] at hread
  exact absurd hread (by decide)

end MarkdownFormat.LinkTarget
