/-
# Well-nested events

Whether events are well-nested can be checked on the way: a construct is closed by the
event that closes constructs of its kind, and nothing stands where it may not. The events
that pass are exactly those of rows of sound passages.
-/

import MarkdownFormat.Proofs.Event.Passage

namespace MarkdownFormat

/-- The constructs that are open behind an event, the innermost first, provided that the
event may stand there. -/
def openBehind? (tags : List Tag) (event : Event) : Option (List Tag) :=
  match event, tags with
  | .closed last, tag :: outer => if last = tag.endTag then some outer else none
  | .closed _, [] => none
  | .opened tag, tags =>
      if tags.head?.all (·.admits event) then some (tag :: tags) else none
  | _, tags => if tags.head?.all (·.admits event) then some tags else none

/-- Whether the constructs that are open can be closed by the events. -/
def areClosedBy (source : Bytes) (tags : List Tag) : List PlacedEvent → Bool
  | [] => tags.isEmpty
  | placed :: rest =>
      placed.range.isWithin source &&
        (openBehind? tags placed.event).any (areClosedBy source · rest)

/-- Whether all ranges lie within the source and all constructs are closed and hold what
they may. -/
def isWellNested (source : Bytes) (events : List PlacedEvent) : Bool :=
  areClosedBy source [] events

variable {source : Bytes} {tags : List Tag} {events : List PlacedEvent} {passage : Passage}

/-- Well-nested events stay within the source. -/
theorem isWithin_of_areClosedBy (hclosed : areClosedBy source tags events) :
    ∀ placed ∈ events, placed.range.isWithin source := by
  induction events generalizing tags with
  | nil => exact List.forall_mem_nil _
  | cons placed events ih =>
      rw [areClosedBy, Bool.and_eq_true, Option.any_eq_true] at hclosed
      obtain ⟨hrange, behind, -, hrest⟩ := hclosed
      exact List.forall_mem_cons.mpr ⟨hrange, ih hrest⟩

/-- Behind a sound passage, the same constructs are open as before it. -/
theorem areClosedBy_rows :
    (∀ (passage : Passage) (tags : List Tag) (rest : List PlacedEvent),
      passage.isSound source → tags.head?.all (·.admits passage.first) →
        areClosedBy source tags (passage.events ++ rest) = areClosedBy source tags rest) ∧
    ∀ (passages : List Passage) (tags : List Tag) (rest : List PlacedEvent),
      Passage.areSound source passages →
        (∀ passage ∈ passages, tags.head?.all (·.admits passage.first)) →
          areClosedBy source tags (Passage.eventsOfRow passages ++ rest) =
            areClosedBy source tags rest := by
  apply Passage.rows_induction
  · intro placed tags rest hsound hadmits
    obtain ⟨event, range⟩ := placed
    rw [Passage.isSound, Bool.and_eq_true] at hsound
    obtain ⟨hrange, hsingle⟩ := hsound
    have hbehind : openBehind? tags event = some tags := by
      cases event with
      | opened tag => cases hsingle
      | closed last => cases hsingle
      | _ => exact if_pos hadmits
    show areClosedBy source tags (⟨event, range⟩ :: rest) = _
    rw [areClosedBy, hrange, hbehind]
    rfl
  · intro tag opening closing inside ih tags rest hsound hadmits
    simp only [Passage.isSound, Bool.and_eq_true, List.all_eq_true] at hsound
    obtain ⟨⟨⟨hopening, hclosing⟩, hinside⟩, hpassages⟩ := hsound
    have hopened : openBehind? tags (.opened tag) = some (tag :: tags) := if_pos hadmits
    have hclosed : openBehind? (tag :: tags) (.closed tag.endTag) = some tags := if_pos rfl
    rw [Passage.events, List.cons_append, List.append_assoc, areClosedBy, hopening, hopened,
      Option.any_some, ih (tag :: tags) _ hpassages hinside, List.singleton_append, areClosedBy, hclosing,
      hclosed]
    rfl
  · intro tags rest _ _
    rfl
  · intro passage passages ihPassage ihRest tags rest hsound hadmits
    rw [Passage.areSound, Bool.and_eq_true] at hsound
    rw [Passage.eventsOfRow, List.append_assoc,
      ihPassage _ _ hsound.1 (hadmits _ List.mem_cons_self),
      ihRest _ _ hsound.2 fun other hother => hadmits other (List.mem_cons_of_mem _ hother)]

/-- The events are those of passages inside of the constructs that are open, each of which
is closed in turn. -/
def Completes (source : Bytes) : List Tag → List PlacedEvent → Prop
  | [], events => ∃ row, Passage.areSound source row ∧ Passage.eventsOfRow row = events
  | tag :: outer, events => ∃ inside closing rest, Passage.areSound source inside ∧
      inside.all (tag.admits ·.first) ∧ closing.isWithin source ∧
      events = Passage.eventsOfRow inside ++ ⟨.closed tag.endTag, closing⟩ :: rest ∧
      Completes source outer rest

/-- A passage may come first. -/
theorem Completes.append (hcompletes : Completes source tags events)
    (hsound : passage.isSound source) (hadmits : tags.head?.all (·.admits passage.first)) :
    Completes source tags (passage.events ++ events) := by
  cases tags with
  | nil =>
      obtain ⟨row, hrow, rfl⟩ := hcompletes
      refine ⟨passage :: row, ?_, rfl⟩
      rw [Passage.areSound, hsound, hrow]
      rfl
  | cons tag outer =>
      obtain ⟨inside, closing, rest, hinside, hall, hclosing, rfl, houter⟩ := hcompletes
      refine ⟨passage :: inside, closing, rest, ?_, ?_, hclosing, ?_, houter⟩
      · rw [Passage.areSound, hsound, hinside]
        rfl
      · rw [List.all_cons, hall, Bool.and_true]
        exact hadmits
      · rw [Passage.eventsOfRow, List.append_assoc]

/-- Events that close what is open are made of passages. The induction is on the events:
one that opens a construct uses up the closing that the rest starts with. -/
theorem completes_of_areClosedBy (hclosed : areClosedBy source tags events) :
    Completes source tags events := by
  induction events generalizing tags with
  | nil =>
      rw [areClosedBy, List.isEmpty_iff] at hclosed
      subst hclosed
      exact ⟨[], rfl, rfl⟩
  | cons placed events ih =>
      obtain ⟨event, range⟩ := placed
      rw [areClosedBy, Bool.and_eq_true, Option.any_eq_true] at hclosed
      obtain ⟨hrange, behind, hbehind, hrest⟩ := hclosed
      have hcompletes := ih hrest
      have hsingle : event.isSingle → (Passage.event ⟨event, range⟩).isSound source := by
        intro hsingle
        rw [Passage.isSound, hrange, hsingle]
        rfl
      cases event with
      | closed last =>
          cases tags with
          | nil => cases hbehind
          | cons tag outer =>
              rw [openBehind?, Option.ite_none_right_eq_some] at hbehind
              obtain ⟨rfl, hbehind⟩ := hbehind
              cases hbehind
              exact ⟨[], range, events, rfl, rfl, hrange, rfl, hcompletes⟩
      | opened tag =>
          rw [openBehind?, Option.ite_none_right_eq_some] at hbehind
          obtain ⟨hadmits, hbehind⟩ := hbehind
          cases hbehind
          obtain ⟨inside, closing, rest, hinside, hall, hclosing, rfl, houter⟩ := hcompletes
          have hsound : (Passage.construct tag range closing inside).isSound source := by
            simp only [Passage.isSound, hrange, hclosing, hall, hinside, Bool.and_self]
          have hconstruct := houter.append hsound hadmits
          rw [Passage.events, List.cons_append, List.append_assoc] at hconstruct
          exact hconstruct
      | _ =>
          obtain ⟨hadmits, hbehind⟩ := Option.ite_none_right_eq_some.mp hbehind
          cases hbehind
          exact hcompletes.append (hsingle rfl) hadmits

/-- Well-nested events are the events of sound passages. -/
theorem isWellNested_iff :
    isWellNested source events ↔
      ∃ passages, Passage.areSound source passages ∧ Passage.eventsOfRow passages = events := by
  constructor
  · intro hnested
    exact completes_of_areClosedBy hnested
  · rintro ⟨passages, hsound, rfl⟩
    have hclosed := areClosedBy_rows.2 passages [] [] hsound (fun _ _ => rfl)
    rw [List.append_nil] at hclosed
    rw [isWellNested, hclosed]
    rfl

end MarkdownFormat
