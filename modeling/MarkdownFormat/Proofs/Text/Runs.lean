/-
# Runs of a mark

A run is a stretch of equal elements that cannot be made longer. Cutting a list where no
run goes on parts its runs among the two halves. So a row of marks on either side of a list
delimits it, unless the list starts or ends with a mark or holds a run of the same length.
-/

import Mathlib.Data.Set.Card
import Mathlib.Order.Interval.Finset.Nat

namespace MarkdownFormat

variable {α β : Type} {mark : α} {xs ys : List α} {start length count : Nat}

/-- A longest stretch of marks, from a place on. -/
structure IsRun (mark : α) (xs : List α) (start length : Nat) : Prop where
  pos : 0 < length
  inside : ∀ k, start ≤ k → k < start + length → xs[k]? = some mark
  before : ∀ k, k + 1 = start → xs[k]? ≠ some mark
  behind : xs[start + length]? ≠ some mark

/-- Some run is of the given length. -/
def HasRun (mark : α) (xs : List α) (length : Nat) : Prop :=
  ∃ start, IsRun mark xs start length

namespace IsRun

/-- A run does not go beyond the end. -/
theorem le_length (hrun : IsRun mark xs start length) : start + length ≤ xs.length := by
  have hpos := hrun.pos
  have hlast := hrun.inside (start + length - 1) (by omega) (by omega)
  have hlt := (List.getElem?_eq_some_iff.mp hlast).1
  omega

/-- Only the places of the mark count. -/
theorem congr {other : β} {zs : List β} (hsame : ∀ k : Nat, xs[k]? = some mark ↔ zs[k]? = some other) :
    IsRun mark xs start length ↔ IsRun other zs start length :=
  ⟨fun h => ⟨h.pos, fun k hlow hhigh => (hsame k).mp (h.inside k hlow hhigh),
      fun k hk => mt (hsame k).mpr (h.before k hk), mt (hsame _).mpr h.behind⟩,
    fun h => ⟨h.pos, fun k hlow hhigh => (hsame k).mpr (h.inside k hlow hhigh),
      fun k hk => mt (hsame k).mp (h.before k hk), mt (hsame _).mp h.behind⟩⟩

/-- What stands behind a list is found behind its length. -/
theorem getElem?_behind (xs ys : List α) (k : Nat) : (xs ++ ys)[xs.length + k]? = ys[k]? := by
  rw [List.getElem?_append_right (Nat.le_add_right _ _), Nat.add_sub_cancel_left]

section Append

variable (hcut : xs.getLast? ≠ some mark ∨ ys.head? ≠ some mark)
include hcut

/-- No two marks touch at the cut. -/
theorem head_ne_of_last_eq {k : Nat} (hk : k + 1 = xs.length) (hlast : xs[k]? = some mark) :
    ys[0]? ≠ some mark := by
  rw [← List.head?_eq_getElem?]
  refine hcut.resolve_left (not_not_intro ?_)
  rw [List.getLast?_eq_getElem?, ← hk, Nat.add_sub_cancel, hlast]

/-- A run of the first half is one of the whole. -/
theorem append_left (hrun : IsRun mark xs start length) : IsRun mark (xs ++ ys) start length := by
  have hle := hrun.le_length
  have hpos := hrun.pos
  refine ⟨hpos, fun k hlow hhigh => ?_, fun k hk => ?_, ?_⟩
  · rw [List.getElem?_append_left (by omega)]
    exact hrun.inside k hlow hhigh
  · rw [List.getElem?_append_left (by omega)]
    exact hrun.before k hk
  · rcases Nat.lt_or_eq_of_le hle with hlt | heq
    · rw [List.getElem?_append_left hlt]
      exact hrun.behind
    · rw [heq, ← Nat.add_zero xs.length, getElem?_behind]
      exact head_ne_of_last_eq hcut (k := start + length - 1) (by omega)
        (hrun.inside _ (by omega) (by omega))

/-- A run of the second half is one further on. -/
theorem append_right {place : Nat} (hrun : IsRun mark ys place length) :
    IsRun mark (xs ++ ys) (xs.length + place) length := by
  refine ⟨hrun.pos, fun k hlow hhigh => ?_, fun k hk => ?_, ?_⟩
  · obtain ⟨j, rfl⟩ := Nat.exists_eq_add_of_le (Nat.le_of_add_right_le hlow)
    rw [getElem?_behind]
    exact hrun.inside j (by omega) (by omega)
  · cases place with
    | zero =>
        have hfirst := hrun.inside 0 (Nat.le_refl _) (by have := hrun.pos; omega)
        rw [List.getElem?_append_left (by omega)]
        exact fun hlast => head_ne_of_last_eq hcut (by omega) hlast hfirst
    | succ place =>
        have hplace : k = xs.length + place := by omega
        rw [hplace, getElem?_behind]
        exact hrun.before place rfl
  · rw [Nat.add_assoc, getElem?_behind]
    exact hrun.behind

/-- A run that does not end in front of the cut starts behind it, since none goes across. -/
theorem length_le_start (hrun : IsRun mark (xs ++ ys) start length)
    (hbeyond : xs.length < start + length) : xs.length ≤ start := by
  refine Nat.not_lt.mp fun hstart => ?_
  have hlast := hrun.inside (xs.length - 1) (by omega) (by omega)
  rw [List.getElem?_append_left (by omega)] at hlast
  have hfirst := hrun.inside (xs.length + 0) (by omega) (by omega)
  rw [getElem?_behind] at hfirst
  exact head_ne_of_last_eq hcut (by omega) hlast hfirst

/-- Where one list ends without a mark or another starts without one, no run goes on. -/
theorem append_iff :
    IsRun mark (xs ++ ys) start length ↔
      IsRun mark xs start length ∨ ∃ place, start = xs.length + place ∧ IsRun mark ys place length := by
  constructor
  · intro hrun
    by_cases hleft : start + length ≤ xs.length
    · refine .inl ⟨hrun.pos, fun k hlow hhigh => ?_, fun k hk => ?_, ?_⟩
      · rw [← List.getElem?_append_left (by omega)]
        exact hrun.inside k hlow hhigh
      · have hpos := hrun.pos
        rw [← List.getElem?_append_left (by omega)]
        exact hrun.before k hk
      · rcases Nat.lt_or_eq_of_le hleft with hlt | heq
        · rw [← List.getElem?_append_left hlt]
          exact hrun.behind
        · simp [heq]
    · obtain ⟨place, rfl⟩ :=
        Nat.exists_eq_add_of_le (length_le_start hcut hrun (Nat.lt_of_not_le hleft))
      refine .inr ⟨place, rfl, hrun.pos, fun k hlow hhigh => ?_, fun k hk => ?_, ?_⟩
      · rw [← getElem?_behind]
        exact hrun.inside _ (by omega) (by omega)
      · rw [← getElem?_behind]
        exact hrun.before _ (by omega)
      · rw [← getElem?_behind, ← Nat.add_assoc]
        exact hrun.behind
  · rintro (hrun | ⟨place, rfl, hrun⟩)
    · exact append_left hcut hrun
    · exact append_right hcut hrun

end Append

/-- A row of marks is one run. -/
theorem replicate_iff :
    IsRun mark (List.replicate count mark) start length ↔
      0 < count ∧ start = 0 ∧ length = count := by
  have hget : ∀ k, (List.replicate count mark)[k]? = some mark ↔ k < count := by
    intro k
    simp [List.getElem?_replicate]
  constructor
  · intro hrun
    have hle := hrun.le_length
    have hpos := hrun.pos
    have hbehind := hrun.behind
    have hbefore := hrun.before (start - 1)
    rw [List.length_replicate] at hle
    rw [Ne, hget] at hbehind hbefore
    omega
  · rintro ⟨hpos, rfl, rfl⟩
    refine ⟨hpos, fun k _ hhigh => (hget k).mpr (by omega), fun k hk => ?_, ?_⟩
    · cases hk
    · rw [Ne, hget]
      omega

/-- Without the mark there is no run. -/
theorem mark_mem (hrun : IsRun mark xs start length) : mark ∈ xs :=
  List.mem_of_getElem? (hrun.inside start (Nat.le_refl _) (Nat.lt_add_of_pos_right hrun.pos))

end IsRun

namespace HasRun

/-- The whole has the runs of both halves. -/
theorem append_iff (hcut : xs.getLast? ≠ some mark ∨ ys.head? ≠ some mark) :
    HasRun mark (xs ++ ys) length ↔ HasRun mark xs length ∨ HasRun mark ys length := by
  simp only [HasRun, IsRun.append_iff hcut, exists_or]
  refine or_congr_right ⟨?_, ?_⟩
  · rintro ⟨_, place, -, hrun⟩
    exact ⟨place, hrun⟩
  · rintro ⟨place, hrun⟩
    exact ⟨_, place, rfl, hrun⟩

/-- A row of marks has a run of its own length alone. -/
theorem replicate_iff :
    HasRun mark (List.replicate count mark) length ↔ 0 < count ∧ length = count := by
  simp [HasRun, IsRun.replicate_iff]

/-- Without a mark there are no runs. -/
theorem of_notMem (hnone : mark ∉ xs) : ¬ HasRun mark xs length :=
  fun ⟨_, hrun⟩ => hnone hrun.mark_mem

/-- What has no marks can be left out behind a row of them. -/
theorem replicate_append_iff {piece : List α} (hpiece : piece ≠ []) (hnone : mark ∉ piece) :
    HasRun mark (List.replicate count mark ++ (piece ++ xs)) length ↔
      HasRun mark (List.replicate count mark) length ∨ HasRun mark xs length := by
  have hfirst : (piece ++ xs).head? ≠ some mark := by
    rw [List.head?_append_of_ne_nil _ hpiece]
    exact fun hhead => hnone (List.mem_of_head? hhead)
  have hlast : piece.getLast? ≠ some mark := fun hlast => hnone (List.mem_of_getLast? hlast)
  rw [append_iff (.inr hfirst), append_iff (.inl hlast), or_iff_right (of_notMem hnone)]

end HasRun

/-- A row of marks at either end delimits a list: both are runs, and no other run is as
long. -/
structure IsFenced (mark : α) (xs : List α) (count : Nat) : Prop where
  opening : IsRun mark xs 0 count
  closing : IsRun mark xs (xs.length - count) count
  unique : ∀ start, IsRun mark xs start count → start = 0 ∨ start = xs.length - count

/-- A row of marks that is no run inside is a fence around what neither starts nor ends with
a mark. -/
theorem IsFenced.of_not_hasRun (hcount : 0 < count) (hinside : xs ≠ [])
    (hfirst : xs.head? ≠ some mark) (hlast : xs.getLast? ≠ some mark)
    (habsent : ¬ HasRun mark xs count) :
    IsFenced mark (List.replicate count mark ++ (xs ++ List.replicate count mark)) count := by
  have hcut : (xs ++ List.replicate count mark).head? ≠ some mark := by
    rwa [List.head?_append_of_ne_nil _ hinside]
  have hruns : ∀ start,
      IsRun mark (List.replicate count mark ++ (xs ++ List.replicate count mark)) start count ↔
        start = 0 ∨ start = count + xs.length := by
    intro start
    rw [IsRun.append_iff (.inr hcut)]
    simp only [IsRun.append_iff (.inl hlast), IsRun.replicate_iff, List.length_replicate]
    constructor
    · rintro (⟨-, rfl, -⟩ | ⟨place, rfl, hrun | ⟨_, rfl, -, rfl, -⟩⟩)
      · exact .inl rfl
      · exact absurd ⟨place, hrun⟩ habsent
      · exact .inr rfl
    · rintro (rfl | rfl)
      · exact .inl ⟨hcount, rfl, trivial⟩
      · exact .inr ⟨xs.length, rfl, .inr ⟨0, rfl, hcount, rfl, trivial⟩⟩
  have hlength : (List.replicate count mark ++ (xs ++ List.replicate count mark)).length - count =
      count + xs.length := by
    simp only [List.length_append, List.length_replicate]
    omega
  refine ⟨(hruns 0).mpr (.inl rfl), ?_, ?_⟩
  · rw [hlength]
    exact (hruns _).mpr (.inr rfl)
  · intro start hrun
    rw [hlength]
    exact (hruns start).mp hrun

/-- A positive number is the least that is no length of a run. -/
structure IsLeastAbsentRun (mark : α) (xs : List α) (count : Nat) : Prop where
  pos : 0 < count
  absent : ¬ HasRun mark xs count
  least : ∀ length, 0 < length → length < count → HasRun mark xs length

/-- It exceeds the number of lengths of runs by one at most. -/
theorem IsLeastAbsentRun.le_ncard (hleast : IsLeastAbsentRun mark xs count) :
    count ≤ {length | HasRun mark xs length}.ncard + 1 := by
  have hfinite : {length | HasRun mark xs length}.Finite := by
    refine (Set.finite_Iic xs.length).subset ?_
    rintro length ⟨start, hrun⟩
    exact Nat.le_trans (Nat.le_add_left _ _) hrun.le_length
  have hsub : (Finset.Ico 1 count : Set Nat) ⊆ {length | HasRun mark xs length} := by
    intro length hlength
    rw [Finset.coe_Ico, Set.mem_Ico] at hlength
    exact hleast.least length hlength.1 hlength.2
  have hcard := Set.ncard_le_ncard hsub hfinite
  rw [Set.ncard_coe_finset, Nat.card_Ico] at hcard
  exact Nat.le_add_of_sub_le hcard

/-- Two lists have their marks in the same places, if stretches without marks count as much
as single elements. -/
inductive SameMarks (mark : α) (other : β) : List α → List β → Prop
  | nil : SameMarks mark other [] []
  | mark {xs : List α} {zs : List β} (hrest : SameMarks mark other xs zs) :
      SameMarks mark other (mark :: xs) (other :: zs)
  | piece {piece xs : List α} {z : β} {zs : List β} (hpiece : piece ≠ []) (hnone : mark ∉ piece)
      (hne : z ≠ other) (hrest : SameMarks mark other xs zs) :
      SameMarks mark other (piece ++ xs) (z :: zs)

namespace SameMarks

variable {other : β} {zs : List β} (hsame : SameMarks mark other xs zs)
include hsame

/-- They have runs of the same lengths. The induction is on what follows a row of marks. -/
theorem hasRun_iff (count : Nat) :
    HasRun mark (List.replicate count mark ++ xs) length ↔
      HasRun other (List.replicate count other ++ zs) length := by
  induction hsame generalizing count with
  | nil => simp only [List.append_nil, HasRun.replicate_iff]
  | mark _ ih =>
      rw [List.append_cons, ← List.replicate_succ', List.append_cons, ← List.replicate_succ']
      exact ih (count + 1)
  | @piece piece xs z zs hpiece hnone hne _ ih =>
      have hrest : HasRun mark xs length ↔ HasRun other zs length := by simpa using ih 0
      rw [HasRun.replicate_append_iff hpiece hnone, hrest, ← List.singleton_append,
        HasRun.replicate_append_iff (List.cons_ne_nil _ _) (by simpa using hne.symm),
        HasRun.replicate_iff, HasRun.replicate_iff]

/-- Both are empty or neither is. -/
theorem eq_nil_iff : xs = [] ↔ zs = [] := by
  cases hsame with
  | nil => simp
  | mark => simp
  | piece hpiece => simp [hpiece]

/-- Both start with a mark or neither does. -/
theorem head?_iff : xs.head? = some mark ↔ zs.head? = some other := by
  cases hsame with
  | nil => simp
  | mark => simp
  | piece hpiece hnone hne =>
      rw [List.head?_append_of_ne_nil _ hpiece, List.head?_cons, Option.some.injEq]
      exact iff_of_false (fun hhead => hnone (List.mem_of_head? hhead)) hne

/-- Both end with a mark or neither does. -/
theorem getLast?_iff : xs.getLast? = some mark ↔ zs.getLast? = some other := by
  induction hsame with
  | nil => simp
  | @mark xs zs hrest ih =>
      by_cases hnil : xs = []
      · rw [hnil, hrest.eq_nil_iff.mp hnil]
        simp
      · rw [List.getLast?_cons_of_ne_nil hnil,
          List.getLast?_cons_of_ne_nil (mt hrest.eq_nil_iff.mpr hnil), ih]
  | @piece piece xs z zs hpiece hnone hne hrest ih =>
      by_cases hnil : xs = []
      · rw [hnil, hrest.eq_nil_iff.mp hnil, List.append_nil, List.getLast?_singleton,
          Option.some.injEq]
        exact iff_of_false (fun hlast => hnone (List.mem_of_getLast? hlast)) hne
      · rw [List.getLast?_append_of_ne_nil _ hnil,
          List.getLast?_cons_of_ne_nil (mt hrest.eq_nil_iff.mpr hnil), ih]

/-- Both hold a mark or neither does. -/
theorem mem_iff : mark ∈ xs ↔ other ∈ zs := by
  induction hsame with
  | nil => simp
  | mark => simp
  | piece _ hnone hne _ ih => simp [hnone, hne.symm, ih]

/-- One of them consists of marks alone if the other does. -/
theorem forall_eq_iff : (∀ x ∈ xs, x = mark) ↔ ∀ z ∈ zs, z = other := by
  induction hsame with
  | nil => simp
  | mark _ ih => simpa using ih
  | @piece piece xs z zs hpiece hnone hne _ _ =>
      obtain ⟨first, hfirst⟩ := List.exists_mem_of_ne_nil piece hpiece
      refine iff_of_false (fun hall => hnone ?_) (fun hall => hne (hall z List.mem_cons_self))
      rwa [← hall first (List.mem_append_left xs hfirst)]

end SameMarks

end MarkdownFormat
