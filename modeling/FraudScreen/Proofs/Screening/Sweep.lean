import Mathlib.Data.List.Nodup
import FraudScreen.Proofs.Regex.Literal
import FraudScreen.Screening.Database

/-!
# One sweep for all literals

The sweep reports every occurrence of every literal, in order of the ends (`mem_sweep`, `sweep_sorted`).
Occurrences of one literal that end in order also begin in order, so the first report of a literal is where
it stands first: `mem_firstPlaces_sweep`.
-/
namespace FraudScreen.Screening

open Regex (StandsFirst)

/-! ## Every occurrence -/

/-- What ends at a place, read backwards, is what was passed last. -/
theorem mem_endingAt {literals : List (Nat × List Char)} {passed : List Char} {place : Nat} {p : Place} :
    p ∈ endingAt literals passed place ↔
      p.stop = place ∧ ∃ l, (p.index, l) ∈ literals ∧ l <+: passed ∧ p.start = place - l.length := by
  simp only [endingAt, List.mem_filterMap]
  constructor
  · rintro ⟨⟨i, l⟩, hm, h⟩
    split at h
    · rename_i hp
      cases h
      exact ⟨rfl, l, hm, List.isPrefixOf_iff_prefix.1 hp, rfl⟩
    · cases h
  · rintro ⟨hs, l, hm, hp, hst⟩
    refine ⟨(p.index, l), hm, ?_⟩
    rw [if_pos (List.isPrefixOf_iff_prefix.2 hp), ← hst, ← hs]

theorem mem_sweep (literals : List (Nat × List Char)) (p : Place) : ∀ rest passed : List Char,
    p ∈ sweep literals passed passed.length rest ↔
      passed.length ≤ p.stop ∧ p.stop ≤ passed.length + rest.length ∧
        ∃ l, (p.index, l) ∈ literals ∧ l <+: ((passed.reverse ++ rest).take p.stop).reverse ∧
          p.start = p.stop - l.length
  | [], passed => by
    simp only [sweep, mem_endingAt, List.append_nil, List.length_nil, Nat.add_zero]
    constructor
    · rintro ⟨hs, h⟩
      rw [hs, List.take_of_length_le (by simp), List.reverse_reverse]
      exact ⟨Nat.le_refl _, Nat.le_refl _, h⟩
    · rintro ⟨h1, h2, h⟩
      have hs : p.stop = passed.length := Nat.le_antisymm h2 h1
      rw [hs, List.take_of_length_le (by simp), List.reverse_reverse] at h
      exact ⟨hs, h⟩
  | c :: rest, passed => by
    have ih := mem_sweep literals p rest (c :: passed)
    simp only [List.length_cons, List.reverse_cons, List.append_assoc, List.singleton_append] at ih
    simp only [sweep, List.mem_append, mem_endingAt, ih, List.length_cons]
    constructor
    · rintro (⟨hs, h⟩ | ⟨h1, h2, h⟩)
      · rw [hs, List.take_append_of_le_length (by simp), List.take_of_length_le (by simp),
          List.reverse_reverse]
        exact ⟨Nat.le_refl _, by omega, h⟩
      · exact ⟨by omega, by omega, h⟩
    · rintro ⟨h1, h2, h⟩
      by_cases hs : p.stop = passed.length
      · left
        rw [hs, List.take_append_of_le_length (by simp), List.take_of_length_le (by simp),
          List.reverse_reverse] at h
        exact ⟨hs, h⟩
      · right
        exact ⟨by omega, by omega, h⟩

theorem sweep_sorted (literals : List (Nat × List Char)) : ∀ rest passed : List Char,
    (sweep literals passed passed.length rest).Pairwise (·.stop ≤ ·.stop)
  | [], passed => by
    refine List.pairwise_of_forall_mem_list fun a ha b hb => ?_
    simp only [sweep, mem_endingAt] at ha hb
    omega
  | c :: rest, passed => by
    refine List.pairwise_append.2 ⟨?_, sweep_sorted literals rest (c :: passed), fun a ha b hb => ?_⟩
    · refine List.pairwise_of_forall_mem_list fun a ha b hb => ?_
      simp only [mem_endingAt] at ha hb
      omega
    · have ha := (mem_endingAt.1 ha).1
      have hb := ((mem_sweep literals b rest (c :: passed)).1 hb).1
      rw [List.length_cons] at hb
      omega

/-- A text ends at a place if it begins its own length before it. -/
theorem suffix_take_iff {w text : List Char} {stop : Nat} (h : stop ≤ text.length) :
    w <:+ text.take stop ↔ w.length ≤ stop ∧ w <+: text.drop (stop - w.length) := by
  constructor
  · intro hw
    have hl : w.length ≤ stop := by have := hw.length_le; simp at this; omega
    obtain ⟨front, hf⟩ := hw
    have hfl : front.length = stop - w.length := by
      have := congrArg List.length hf
      simp at this
      omega
    refine ⟨hl, text.drop stop, ?_⟩
    have ht : front ++ (w ++ text.drop stop) = text := by
      rw [← List.append_assoc, hf, List.take_append_drop]
    conv => rhs; rw [← ht, ← hfl, List.drop_left]
  · rintro ⟨hl, back, hb⟩
    refine ⟨text.take (stop - w.length), ?_⟩
    have ht : text.take stop = text.take (stop - w.length) ++ (text.drop (stop - w.length)).take w.length := by
      rw [← List.take_add]
      congr 1
      omega
    rw [ht, ← hb, List.take_left]

/-- The places of a literal in the sweep of a text are where it stands. -/
theorem mem_sweep_iff_begins {literals : List (Nat × List Char)} {text : List Char} {p : Place} :
    p ∈ sweep literals [] 0 text ↔ p.stop ≤ text.length ∧
      ∃ w, (p.index, w.reverse) ∈ literals ∧ w <+: text.drop p.start ∧ p.stop = p.start + w.length := by
  have h := mem_sweep literals p text []
  simp only [List.length_nil, Nat.zero_le, Nat.zero_add, List.reverse_nil, List.nil_append, true_and] at h
  rw [h]
  refine and_congr_right fun hs => ⟨?_, ?_⟩
  · rintro ⟨l, hm, hp, hst⟩
    rw [← List.reverse_reverse l, List.reverse_prefix, suffix_take_iff hs, List.length_reverse] at hp
    exact ⟨l.reverse, by simpa using hm, hst ▸ hp.2, by rw [List.length_reverse]; omega⟩
  · rintro ⟨w, hm, hp, hst⟩
    refine ⟨w.reverse, hm, ?_, by rw [List.length_reverse]; omega⟩
    rw [List.reverse_prefix, suffix_take_iff hs]
    exact ⟨by omega, by rwa [show p.stop - w.length = p.start by omega]⟩

/-! ## First reports -/

theorem mem_firstPlaces {p : Place} : ∀ {places : List Place} {seen : List Nat},
    p ∈ firstPlaces seen places ↔ p.index ∉ seen ∧ places.find? (·.index = p.index) = some p
  | [], seen => by simp [firstPlaces]
  | q :: rest, seen => by
    simp only [firstPlaces, List.contains_eq_mem, decide_eq_true_eq]
    split
    · rename_i hq
      rw [mem_firstPlaces]
      refine and_congr_right fun hp => ?_
      have hne : q.index ≠ p.index := fun e => hp (e ▸ hq)
      simp [hne]
    · rename_i hq
      rw [List.mem_cons, mem_firstPlaces]
      by_cases e : q.index = p.index
      · simp only [e, List.find?_cons, decide_true, List.mem_cons, true_or, not_true, false_and, or_false,
          Option.some_inj]
        exact ⟨fun h => ⟨e ▸ hq, h.symm⟩, fun h => h.2.symm⟩
      · have hne : p ≠ q := fun h => e (h ▸ rfl)
        simp [hne, e, Ne.symm e]

theorem firstPlaces_indices_ne : ∀ (places : List Place) (seen : List Nat),
    (firstPlaces seen places).Pairwise (·.index ≠ ·.index)
  | [], _ => List.Pairwise.nil
  | q :: rest, seen => by
    simp only [firstPlaces]
    split
    · exact firstPlaces_indices_ne rest seen
    · refine List.Pairwise.cons (fun p hp e => ?_) (firstPlaces_indices_ne rest _)
      exact (mem_firstPlaces.1 hp).1 (e ▸ List.mem_cons_self ..)

section

variable {literals : List (Nat × List Char)} (hn : (literals.map (·.1)).Nodup) {text w : List Char}

include hn

/-- The sweep reports at the number of a literal where this literal stands, and nothing else. -/
theorem mem_sweep_literal {p : Place} (hw : (p.index, w.reverse) ∈ literals) :
    p ∈ sweep literals [] 0 text ↔
      p.stop ≤ text.length ∧ w <+: text.drop p.start ∧ p.stop = p.start + w.length := by
  rw [mem_sweep_iff_begins]
  refine and_congr_right fun _ => ⟨?_, fun h => ⟨w, hw, h⟩⟩
  rintro ⟨w', hw', h⟩
  have hpair := List.inj_on_of_nodup_map hn hw' hw rfl
  have : w' = w := List.reverse_injective (Prod.mk.inj hpair).2
  exact this ▸ h

theorem standsFirst_of_find? {i : Nat} (hw : (i, w.reverse) ∈ literals) {q : Place}
    (h : (sweep literals [] 0 text).find? (·.index = i) = some q) :
    StandsFirst w text q.start ∧ q.stop = q.start + w.length := by
  obtain ⟨hi, front, back, hs, hno⟩ := List.find?_eq_some_iff_append.1 h
  obtain rfl : q.index = i := by simpa using hi
  obtain ⟨hle, hst, hstop⟩ := (mem_sweep_literal hn hw).1 (List.mem_of_find?_eq_some h)
  refine ⟨⟨by omega, hst, ?_⟩, hstop⟩
  intro k hk hpre
  -- an earlier occurrence would be reported, and in front of `q`
  have hmem : ⟨q.index, k, k + w.length⟩ ∈ sweep literals [] 0 text :=
    (mem_sweep_literal (p := ⟨q.index, k, k + w.length⟩) hn hw).2 ⟨by dsimp only; omega, hpre, rfl⟩
  have hsorted := sweep_sorted literals text []
  rw [List.length_nil, hs] at hsorted
  rw [hs] at hmem
  rcases List.mem_append.1 hmem with h | h
  · exact absurd (hno _ h) (by simp)
  · rcases List.mem_cons.1 h with h | h
    · rw [← h] at hk
      exact Nat.lt_irrefl _ hk
    · have hlt := (List.pairwise_cons.1 (List.pairwise_append.1 hsorted).2.1).1 _ h
      dsimp only at hlt
      omega

/-- **The first report of a literal is where it stands first.** -/
theorem mem_firstPlaces_sweep {p : Place} (hw : (p.index, w.reverse) ∈ literals) :
    p ∈ firstPlaces [] (sweep literals [] 0 text) ↔
      StandsFirst w text p.start ∧ p.stop = p.start + w.length := by
  rw [mem_firstPlaces]
  constructor
  · rintro ⟨-, h⟩
    exact standsFirst_of_find? hn hw h
  · rintro ⟨hs, hstop⟩
    refine ⟨List.not_mem_nil, ?_⟩
    have hlen := hs.stands.length_le
    rw [List.length_drop] at hlen
    have hwithin := hs.within
    have hmem : p ∈ sweep literals [] 0 text := (mem_sweep_literal hn hw).2 ⟨by omega, hs.stands, hstop⟩
    cases hf : (sweep literals [] 0 text).find? (·.index = p.index) with
    | none => exact absurd (List.find?_eq_none.1 hf p hmem) (by simp)
    | some q =>
      obtain ⟨hq, hqs⟩ := standsFirst_of_find? hn hw hf
      have hstart := hq.unique hs
      have hqi : q.index = p.index := by simpa using List.find?_some hf
      obtain ⟨i, a, b⟩ := p
      obtain ⟨j, c, d⟩ := q
      simp_all

end

end FraudScreen.Screening
