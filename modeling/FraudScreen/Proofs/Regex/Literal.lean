import FraudScreen.Proofs.Regex.Reading

/-!
# Literal texts as expressions

The escaped form of a text reads as that text and nothing else (`parse_escape`), and as an expression the
text is found exactly where it stands first (`find?_text`).
-/
namespace FraudScreen.Regex

/-! ## Reading what was escaped -/

theorem joinTexts_singletons : ∀ {cs : List Char}, cs ≠ [] → joinTexts (cs.map fun c => text [c]) = [text cs]
  | [c], _ => rfl
  | c :: d :: cs, _ => by
    have ih := joinTexts_singletons (List.cons_ne_nil d cs)
    simp only [joinTexts, List.map_cons, List.foldr_cons] at ih ⊢
    rw [ih]
    rfl

theorem sequence_singletons {cs : List Char} (h : cs ≠ []) :
    sequence (cs.map fun c => text [c]) = text cs := by
  have hf : (cs.map fun c => text [c]).flatMap factors = cs.map fun c => text [c] := by
    rw [List.flatMap_map, List.map_eq_flatMap]
    rfl
  rw [sequence, hf, joinTexts_singletons h]
  rfl

/-- An escaped text spells the text. -/
theorem spelled?_escape {cs : List Char} (h : cs ≠ []) : spelled? (escape cs) = some (text cs) := by
  let piece (c : Char) : List Char × Part :=
    (if metaCharacters.contains c then ['\\', c] else [c], .leaf (text [c]))
  have hp : ∀ p ∈ cs.map piece, ReadsAs p.1 p.2 := List.forall_mem_map.2 fun c _ => by
    by_cases hc : c ∈ metaCharacters
    · simpa [piece, hc] using readsAs_backslash hc
    · have hsub : syntaxCharacters ⊆ metaCharacters := by decide
      simpa [piece, hc] using readsAs_ordinary fun hs => hc (hsub hs)
  have hd : ∀ p ∈ cs.map piece, p.2.depth ≤ 1 := List.forall_mem_map.2 fun _ _ => Nat.zero_le 1
  have hs := spelled?_pieces hp hd
  have he : (cs.map piece).flatMap (·.1) = escape cs := List.flatMap_map ..
  have hr : (cs.map piece).map (·.2.regex) = cs.map fun c => text [c] := List.map_map ..
  rw [← he, hs, hr, sequence_singletons h]

/-- **The escaped form of a text reads as the text**, unless the machine for it is too large. -/
theorem parse_escape {cs : List Char} (h : cs ≠ []) :
    parse (escape cs) = if (text cs).fits then some (text cs) else none := by
  rw [parse_eq, spelled?_escape h, Option.filter_some]

/-- The machine for a text is small enough up to a length of about 320 kilobytes. -/
theorem fits_text (cs : List Char) : (text cs).fits = decide (Text.byteLength cs ≤ 327673) := by
  have hf : Footprint.ofForwards (text cs) = ⟨Text.byteLength cs + 6, 16⟩ := by
    simp [Footprint.ofForwards, Footprint.lay, Footprint.join, Footprint.entrance, Footprint.add, startsText,
      Footprint.reading, Footprint.jump]
    omega
  have hb : Footprint.ofBackwards (text cs) = ⟨Text.byteLength cs + 4, 16⟩ := by
    simp [Footprint.ofBackwards, Footprint.lay, Footprint.join, Footprint.entrance, Footprint.add, endsText,
      ending, Footprint.reading, Footprint.jump]
    omega
  have hm : Footprint.mostBytes = 10485760 := rfl
  rw [fits, hf, hb, Footprint.isTooLarge, Footprint.isTooLarge, Footprint.bytes, Footprint.bytes, hm]
  generalize Text.byteLength cs = n
  by_cases h : n ≤ 327673
  · have hfw : decide (10485760 < 32 * (n + 6) + 16) = false := decide_eq_false (by omega)
    have hbw : decide (10485760 < 32 * (n + 4) + 16) = false := decide_eq_false (by omega)
    rw [hfw, hbw, decide_eq_true h]
    rfl
  · have hfw : decide (10485760 < 32 * (n + 6) + 16) = true := decide_eq_true (by omega)
    rw [hfw, decide_eq_false h]
    rfl

/-! ## Where a text stands -/

/-- The text `cs` stands in `t` from the place `i` on, and nowhere before. -/
structure StandsFirst (cs t : List Char) (i : Nat) : Prop where
  within : i ≤ t.length
  stands : cs <+: t.drop i
  first : ∀ k < i, ¬ cs <+: t.drop k

theorem StandsFirst.unique {cs t : List Char} {i j : Nat} (hi : StandsFirst cs t i)
    (hj : StandsFirst cs t j) : i = j := by
  rcases Nat.lt_trichotomy i j with h | h | h
  · exact absurd hi.stands (hj.first i h)
  · exact h
  · exact absurd hj.stands (hi.first j h)

theorem standsAt_iff (t : List Char) : ∀ (cs : List Char) (i : Nat),
    (standsAt t.toArray i cs = true ↔ cs <+: t.drop i)
  | [], i => by simp [standsAt]
  | c :: cs, i => by
    by_cases h : i < t.length
    · have ih := standsAt_iff t cs (i + 1)
      rw [List.drop_eq_getElem_cons h]
      have hc : (t.toArray[i]? == some c) = true ↔ c = t[i] := by
        rw [List.getElem?_toArray, List.getElem?_eq_getElem h, beq_iff_eq, Option.some_inj]
        exact eq_comm
      rw [standsAt, Bool.and_eq_true, ih, hc, List.cons_prefix_cons]
    · have hd : t.drop i = [] := by simp; omega
      simp [standsAt, hd, h]

/-- **A text is found where it stands first**, and the match is the text itself. -/
theorem find?_text (cs t : List Char) (i j : Nat) :
    (text cs).find? t.toArray = some (i, j) ↔ StandsFirst cs t i ∧ j = i + cs.length := by
  have hi : ∀ i, ((ends t.toArray (text cs) i).head?.map fun j => (i, j)) =
      (Option.guard (standsAt t.toArray · cs) i).map fun i => (i, i + cs.length) := by
    intro i
    simp only [ends, Option.guard]
    split <;> rfl
  have hf : (text cs).find? t.toArray =
      ((List.range (t.length + 1)).find? (standsAt t.toArray · cs)).map fun i => (i, i + cs.length) := by
    rw [List.find?_eq_findSome?_guard, List.map_findSome?]
    simp only [find?, isFlat, if_true, List.size_toArray]
    exact congrArg (List.findSome? · _) (funext hi)
  simp only [hf, Option.map_eq_some_iff, List.find?_range_eq_some, Prod.mk.injEq, Bool.not_eq_true']
  constructor
  · rintro ⟨k, ⟨hs, hk, hf⟩, rfl, rfl⟩
    have hk := List.mem_range.1 hk
    refine ⟨⟨by omega, (standsAt_iff t cs k).1 hs, fun m hm hc => ?_⟩, rfl⟩
    have := hf m hm
    rw [(standsAt_iff t cs m).2 hc] at this
    cases this
  · rintro ⟨h, rfl⟩
    refine ⟨i, ⟨(standsAt_iff t cs i).2 h.stands, List.mem_range.2 (Nat.lt_succ_of_le h.within),
      fun m hm => ?_⟩, rfl, rfl⟩
    have := h.first m hm
    rwa [← standsAt_iff t cs m, Bool.not_eq_true] at this

end FraudScreen.Regex
