import FraudScreen.Proofs.Regex.Literal

/-!
# What expressions match

`Spans t r u v` says that `r` matches the part of the text `t` between two places, each given by what is left
of the text from it on. The ends of a flat expression are exactly those for which this holds (`mem_ends_iff`),
and the plain form of a sequence matches what its parts match one after another (`spans_sequence`).
-/
namespace FraudScreen.Regex

open Text (CodeSet)

/-! ## Spans -/

/-- So many steps of a relation one after another. -/
def Rounds {α : Type} (step : α → α → Prop) : Nat → α → α → Prop
  | 0, u, v => u = v
  | n + 1, u, v => ∃ w, step u w ∧ Rounds step n w v

/-- In the text `t` the expression matches from the place where `u` is left up to the place where `v` is. -/
def Spans (t : List Char) : Regex → List Char → List Char → Prop
  | empty, u, v => u = v
  | text cs, u, v => u = cs ++ v
  | set s, u, v => ∃ c : Char, s.contains c.toNat ∧ u = c :: v
  | look l, u, v => u = v ∧ l.holds t.toArray (t.length - u.length)
  | group r, u, v => Spans t r u v
  | seq a b, u, v => ∃ w, Spans t a u w ∧ Spans t b w v
  | alt a b, u, v => Spans t a u v ∨ Spans t b u v
  | many r least most _, u, v => ∃ n, least ≤ n ∧ most.all (n ≤ ·) ∧ Rounds (Spans t r) n u v

/-- The expressions match one after another. -/
def SpansAll (t : List Char) : List Regex → List Char → List Char → Prop
  | [], u, v => u = v
  | r :: rs, u, v => ∃ w, Spans t r u w ∧ SpansAll t rs w v

variable {t : List Char}

theorem Rounds.suffix {α : Type} {step : List α → List α → Prop} (h : ∀ {u v}, step u v → v <:+ u) :
    ∀ {n : Nat} {u v : List α}, Rounds step n u v → v <:+ u
  | 0, _, _, e => e ▸ List.suffix_refl _
  | _ + 1, _, _, ⟨_, hs, hr⟩ => (hr.suffix h).trans (h hs)

/-- After a match no more is left than before it. -/
theorem Spans.suffix : ∀ {r : Regex} {u v : List Char}, Spans t r u v → v <:+ u
  | empty, _, _, h => h ▸ List.suffix_refl _
  | text cs, _, _, h => ⟨cs, Eq.symm h⟩
  | set _, _, _, ⟨c, _, h⟩ => ⟨[c], h.symm⟩
  | look _, _, _, h => h.1 ▸ List.suffix_refl _
  | group r, _, _, h => suffix (r := r) h
  | seq _ _, _, _, ⟨_, ha, hb⟩ => hb.suffix.trans ha.suffix
  | alt _ _, _, _, .inl h => h.suffix
  | alt _ _, _, _, .inr h => h.suffix
  | many r _ _ _, _, _, ⟨_, _, _, h⟩ => h.suffix fun hr => suffix (r := r) hr

theorem SpansAll.suffix : ∀ {rs : List Regex} {u v : List Char}, SpansAll t rs u v → v <:+ u
  | [], _, _, h => h ▸ List.suffix_refl _
  | _ :: _, _, _, ⟨_, h, hs⟩ => hs.suffix.trans h.suffix

/-! ## Single characters -/

theorem contains_single (n m : Nat) : (CodeSet.single n).contains m = decide (m = n) := by
  have hlog : Nat.log2 2 = 1 := rfl
  simp only [CodeSet.contains, CodeSet.single, CodeSet.range, List.size_toArray, List.length_cons, List.length_nil,
    hlog, CodeSet.boundsUpTo]
  rcases Nat.lt_trichotomy m n with h | rfl | h
  · have h1 : ¬ n + 1 ≤ m := by omega
    have h2 : ¬ n ≤ m := by omega
    have h3 : ¬ m = n := by omega
    simp [h1, h2, h3]
  · have h1 : ¬ m + 1 ≤ m := Nat.not_succ_le_self m
    simp [h1]
  · have h1 : n + 1 ≤ m := h
    have h3 : ¬ m = n := by omega
    simp [h1, h3]

/-- An expression for one character spans one of those that it stands for. -/
theorem spans_of_characters? {s : CodeSet} {u v : List Char} :
    ∀ {r : Regex}, r.characters? = some s → (Spans t r u v ↔ ∃ c : Char, s.contains c.toNat ∧ u = c :: v)
  | set s', h => by
    cases h
    exact Iff.rfl
  | text [d], h => by
    cases h
    have hc : ∀ c : Char, (CodeSet.single d.toNat).contains c.toNat = true ↔ c = d := fun c => by
      rw [contains_single, decide_eq_true_iff]
      exact ⟨fun e => Char.toNat_inj.1 e, fun e => e ▸ rfl⟩
    simp only [Spans, hc, exists_eq_left]
    rfl

theorem rounds_of_characters? {r : Regex} {s : CodeSet} (h : r.characters? = some s) :
    ∀ {n : Nat} {u v : List Char}, Rounds (Spans t r) n u v ↔
      ∃ run, run.length = n ∧ (∀ c ∈ run, s.contains c.toNat) ∧ u = run ++ v
  | 0, u, v => by simp [Rounds]
  | n + 1, u, v => by
    simp only [Rounds, spans_of_characters? h, rounds_of_characters? h (n := n)]
    constructor
    · rintro ⟨_, ⟨c, hc, rfl⟩, run, rfl, hr, rfl⟩
      exact ⟨c :: run, rfl, List.forall_mem_cons.2 ⟨hc, hr⟩, rfl⟩
    · rintro ⟨_ | ⟨c, run⟩, hl, hr, rfl⟩
      · cases hl
      · have hr := List.forall_mem_cons.1 hr
        exact ⟨run ++ v, ⟨c, hr.1, rfl⟩, run, Nat.succ.inj hl, hr.2, rfl⟩

/-- A repetition of single characters spans a run of these. -/
theorem spans_many {r : Regex} {s : CodeSet} (h : r.characters? = some s) {least : Nat} {most : Option Nat}
    {greedy : Bool} {u v : List Char} : Spans t (many r least most greedy) u v ↔
      ∃ run, (∀ c ∈ run, s.contains c.toNat) ∧ least ≤ run.length ∧ most.all (run.length ≤ ·) ∧ u = run ++ v := by
  simp only [Spans, rounds_of_characters? h]
  constructor
  · rintro ⟨_, hl, hm, run, rfl, hr, e⟩
    exact ⟨run, hr, hl, hm, e⟩
  · rintro ⟨run, hr, hl, hm, e⟩
    exact ⟨_, hl, hm, run, rfl, hr, e⟩

/-- A point stands for a character unless it is a line feed. -/
theorem contains_lineCharacters (c : Char) : lineCharacters.contains c.toNat = true ↔ c ≠ '\n' := by
  have hc : c = '\n' ↔ c.toNat = 10 := ⟨fun h => h ▸ rfl, fun h => Char.toNat_inj.1 h⟩
  have hv : c.toNat < 0xD800 ∨ 0xDFFF < c.toNat ∧ c.toNat < 0x110000 := c.valid
  rw [ne_eq, hc]
  generalize c.toNat = n at hv
  have hlog : Nat.log2 6 = 2 := rfl
  simp only [CodeSet.contains, bounds_lineCharacters, List.size_toArray, List.length_cons, List.length_nil,
    hlog, CodeSet.boundsUpTo]
  grind

/-! ## Ends of flat expressions -/

theorem mem_unseen {x : Nat} : ∀ {xs : List Nat} {seen : Nat},
    x ∈ unseen seen xs ↔ x ∈ xs ∧ seen.testBit x = false
  | [], seen => by simp [unseen]
  | y :: xs, seen => by
    have hbit : (seen ||| 1 <<< y).testBit x = (seen.testBit x || decide (y = x)) := by
      rw [Nat.testBit_or, Nat.one_shiftLeft, Nat.testBit_two_pow]
    simp only [unseen]
    split
    · rename_i hy
      rw [mem_unseen, List.mem_cons]
      refine ⟨fun h => ⟨.inr h.1, h.2⟩, fun h => ⟨h.1.resolve_left fun e => ?_, h.2⟩⟩
      rw [e, hy] at h
      exact Bool.noConfusion h.2
    · rename_i hy
      rw [List.mem_cons, mem_unseen, hbit, List.mem_cons]
      by_cases e : x = y
      · subst e
        simp [hy]
      · have e' : ¬ y = x := fun h => e h.symm
        simp [e, e']

theorem mem_firsts {x : Nat} {xs : List Nat} : x ∈ firsts xs ↔ x ∈ xs := by
  simp [firsts, mem_unseen]

theorem le_runLength_iff {s : CodeSet} : ∀ {room i k : Nat},
    k ≤ runLength t.toArray s i room ↔
      k ≤ room ∧ k ≤ (t.drop i).length ∧ ∀ c ∈ (t.drop i).take k, s.contains c.toNat
  | 0, i, k => by
    simp only [runLength, Nat.le_zero]
    refine ⟨?_, fun h => h.1⟩
    rintro rfl
    simp
  | _ + 1, _, 0 => by simp
  | room + 1, i, k + 1 => by
    have ih := @le_runLength_iff s room (i + 1) k
    by_cases hi : i < t.length
    · have hc : t.toArray[i]?.any (s.contains ·.toNat) = s.contains t[i].toNat := by simp [hi]
      rw [List.drop_eq_getElem_cons hi]
      simp only [runLength, hc, List.take_succ_cons, List.length_cons, List.forall_mem_cons, Nat.succ_le_succ_iff]
      by_cases hs : s.contains t[i].toNat
      · simp [hs, ih]
      · simp [hs]
    · have hd : t.drop i = [] := List.drop_eq_nil_of_le (Nat.le_of_not_lt hi)
      have hn : t.toArray[i]? = none := by simp; omega
      simp [runLength, hd, hn]

theorem mem_runEnds {s : CodeSet} {least : Nat} {most : Option Nat} {greedy : Bool} {i j : Nat} :
    j ∈ runEnds t.toArray s least most greedy i ↔ ∃ k, j = i + k ∧ least ≤ k ∧ most.all (k ≤ ·) ∧
      k ≤ (t.drop i).length ∧ ∀ c ∈ (t.drop i).take k, s.contains c.toNat := by
  have hroom : ∀ k, k ≤ min (t.length - i) (most.getD (t.length - i)) ∧ k ≤ (t.drop i).length ↔
      most.all (k ≤ ·) ∧ k ≤ (t.drop i).length := by
    intro k
    cases most <;> simp
    omega
  have hk : ∀ k, k ≤ runLength t.toArray s i (min (t.length - i) (most.getD (t.length - i))) ↔
      most.all (k ≤ ·) ∧ k ≤ (t.drop i).length ∧ ∀ c ∈ (t.drop i).take k, s.contains c.toNat := fun k => by
    rw [le_runLength_iff, ← and_assoc, hroom, and_assoc]
  have hg : ∀ xs : List Nat, j ∈ (if greedy then xs.reverse else xs) ↔ j ∈ xs := fun xs => by
    split
    · exact List.mem_reverse
    · exact Iff.rfl
  simp only [runEnds, List.size_toArray, ← hk]
  generalize runLength t.toArray s i _ = length
  split
  · simp only [List.not_mem_nil, false_iff]
    rintro ⟨k, -, h1, h2⟩
    omega
  · rw [hg, List.mem_map]
    simp only [List.mem_range]
    constructor
    · rintro ⟨m, hm, rfl⟩
      exact ⟨least + m, Nat.add_assoc .., Nat.le_add_right .., by omega⟩
    · rintro ⟨k, rfl, h1, h2⟩
      exact ⟨k - least, by omega, by omega⟩

theorem drop_eq_drop_iff {i j : Nat} (hi : i ≤ t.length) (hj : j ≤ t.length) :
    t.drop i = t.drop j ↔ i = j := by
  refine ⟨fun h => ?_, fun h => h ▸ rfl⟩
  have := congrArg List.length h
  simp only [List.length_drop] at this
  omega

/-- A text that begins at the place `i` reaches up to the place `j`. -/
theorem drop_eq_append_iff (run : List Char) {i j : Nat} (hi : i ≤ t.length) (hj : j ≤ t.length) :
    t.drop i = run ++ t.drop j ↔ run <+: t.drop i ∧ j = i + run.length := by
  constructor
  · intro h
    have hl := congrArg List.length h
    simp only [List.length_drop, List.length_append] at hl
    exact ⟨⟨_, h.symm⟩, by omega⟩
  · rintro ⟨⟨v, hv⟩, rfl⟩
    rw [← List.drop_drop, ← hv, List.drop_left]

/-- The places of a text are its suffixes. -/
theorem exists_drop_of_suffix {v : List Char} {i : Nat} (h : v <:+ t.drop i) : ∃ j ≤ t.length, v = t.drop j := by
  have hv : v <:+ t := h.trans (List.drop_suffix i t)
  exact ⟨t.length - v.length, Nat.sub_le .., List.suffix_iff_eq_drop.1 hv⟩

/-- **The ends of a flat expression are the places up to which it matches.** -/
theorem mem_ends_iff : ∀ {r : Regex} {i j : Nat}, r.isFlat → i ≤ t.length →
    (j ∈ ends t.toArray r i ↔ j ≤ t.length ∧ Spans t r (t.drop i) (t.drop j))
  | empty, i, j, _, hi => by
    rw [ends, List.mem_singleton, Spans]
    constructor
    · rintro rfl
      exact ⟨hi, rfl⟩
    · rintro ⟨hj, h⟩
      exact ((drop_eq_drop_iff hi hj).1 h).symm
  | text cs, i, j, _, hi => by
    rw [ends, Spans, List.mem_ite_nil_right, List.mem_singleton, standsAt_iff t cs i]
    constructor
    · rintro ⟨h, rfl⟩
      have hl := h.length_le
      rw [List.length_drop] at hl
      have hj : i + cs.length ≤ t.length := by omega
      exact ⟨hj, (drop_eq_append_iff _ hi hj).2 ⟨h, rfl⟩⟩
    · rintro ⟨hj, h⟩
      exact (drop_eq_append_iff _ hi hj).1 h
  | set s, i, j, _, hi => by
    rw [ends, Spans, List.mem_ite_nil_right, List.mem_singleton, List.getElem?_toArray, ← List.head?_drop,
      Option.any_eq_true]
    constructor
    · rintro ⟨⟨c, hc, hs⟩, rfl⟩
      obtain ⟨v, hv⟩ := List.head?_eq_some_iff.1 hc
      have hl := congrArg List.length hv
      rw [List.length_drop, List.length_cons] at hl
      have hj : i + 1 ≤ t.length := by omega
      exact ⟨hj, c, hs, (drop_eq_append_iff [c] hi hj).2 ⟨⟨v, hv.symm⟩, rfl⟩⟩
    · rintro ⟨hj, c, hs, he⟩
      exact ⟨⟨c, by rw [he]; rfl, hs⟩, ((drop_eq_append_iff [c] hi hj).1 he).2⟩
  | look l, i, j, _, hi => by
    have hp : t.length - (t.drop i).length = i := by rw [List.length_drop]; omega
    rw [ends, Spans, List.mem_ite_nil_right, List.mem_singleton, hp]
    constructor
    · rintro ⟨h, rfl⟩
      exact ⟨hi, rfl, h⟩
    · rintro ⟨hj, h, hl⟩
      exact ⟨hl, ((drop_eq_drop_iff hi hj).1 h).symm⟩
  | group r, i, j, h, hi => mem_ends_iff (r := r) h hi
  | seq a b, i, j, h, hi => by
    obtain ⟨ha, hb⟩ : a.isFlat ∧ b.isFlat := by simpa [isFlat] using h
    rw [ends, mem_firsts, List.mem_flatMap, Spans]
    constructor
    · rintro ⟨k, hk, hj⟩
      obtain ⟨hk, hka⟩ := (mem_ends_iff ha hi).1 hk
      obtain ⟨hj, hjb⟩ := (mem_ends_iff hb hk).1 hj
      exact ⟨hj, _, hka, hjb⟩
    · rintro ⟨hj, w, hw, hb'⟩
      -- what is left between the two parts is left from some place of the text on
      obtain ⟨k, hk, rfl⟩ := exists_drop_of_suffix hw.suffix
      exact ⟨k, (mem_ends_iff ha hi).2 ⟨hk, hw⟩, (mem_ends_iff hb hk).2 ⟨hj, hb'⟩⟩
  | alt a b, i, j, h, hi => by
    obtain ⟨ha, hb⟩ : a.isFlat ∧ b.isFlat := by simpa [isFlat] using h
    rw [ends, mem_firsts, List.mem_append, mem_ends_iff ha hi, mem_ends_iff hb hi, Spans, ← and_or_left]
  | many r least most greedy, i, j, h, hi => by
    obtain ⟨s, hs⟩ := Option.isSome_iff_exists.1 (show r.characters?.isSome from h)
    rw [ends, hs, Option.getD_some, mem_runEnds, spans_many hs]
    constructor
    · rintro ⟨k, rfl, hl, hm, hk, hc⟩
      have hj : i + k ≤ t.length := by rw [List.length_drop] at hk; omega
      have hlen : ((t.drop i).take k).length = k := by rw [List.length_take]; omega
      refine ⟨hj, (t.drop i).take k, hc, ?_, ?_, ?_⟩
      · rwa [hlen]
      · rwa [hlen]
      · rw [← List.drop_drop, List.take_append_drop]
    · rintro ⟨hj, run, hc, hl, hm, he⟩
      obtain ⟨⟨v, hv⟩, rfl⟩ := (drop_eq_append_iff _ hi hj).1 he
      refine ⟨run.length, rfl, hl, hm, ?_, ?_⟩
      · rw [← hv, List.length_append]
        exact Nat.le_add_right ..
      · rwa [← hv, List.take_left]

/-! ## Sequences -/

theorem spansAll_append {rs rs' : List Regex} : ∀ {u v : List Char},
    SpansAll t (rs ++ rs') u v ↔ ∃ w, SpansAll t rs u w ∧ SpansAll t rs' w v := by
  induction rs with
  | nil => simp [SpansAll]
  | cons r rs ih =>
    intro u v
    simp only [List.cons_append, SpansAll, ih]
    constructor
    · rintro ⟨w, h, w', h1, h2⟩
      exact ⟨w', ⟨w, h, h1⟩, h2⟩
    · rintro ⟨w', ⟨w, h, h1⟩, h2⟩
      exact ⟨w, h, w', h1, h2⟩

theorem spansAll_singleton {r : Regex} {u v : List Char} : SpansAll t [r] u v ↔ Spans t r u v := by
  simp [SpansAll]

/-- Characters match one after another where their text stands. -/
theorem spansAll_characters : ∀ {cs u v : List Char}, SpansAll t (cs.map fun c => text [c]) u v ↔ u = cs ++ v
  | [], _, _ => Iff.rfl
  | c :: cs, u, v => by
    simp only [List.map_cons, SpansAll, Spans, spansAll_characters, List.cons_append]
    constructor
    · rintro ⟨_, rfl, rfl⟩
      rfl
    · exact fun h => ⟨_, h, rfl⟩

theorem spans_ofFactors : ∀ {rs : List Regex} {u v : List Char},
    Spans t (ofFactors rs) u v ↔ SpansAll t rs u v
  | [], _, _ => Iff.rfl
  | [_], _, _ => spansAll_singleton.symm
  | _ :: _ :: _, _, _ => exists_congr fun _ => and_congr_right fun _ => spans_ofFactors

theorem spansAll_factors : ∀ {r : Regex} {u v : List Char}, SpansAll t r.factors u v ↔ Spans t r u v
  | seq _ b, _, _ => exists_congr fun _ => and_congr_right fun _ => spansAll_factors (r := b)
  | empty, _, _ => Iff.rfl
  | text _, _, _ | set _, _, _ | look _, _, _ | group _, _, _ | alt _ _, _, _ | many .., _, _ =>
    spansAll_singleton

theorem spansAll_flatMap_factors {rs : List Regex} : ∀ {u v : List Char},
    SpansAll t (rs.flatMap factors) u v ↔ SpansAll t rs u v := by
  induction rs with
  | nil => exact Iff.rfl
  | cons r rs ih =>
    intro u v
    rw [List.flatMap_cons, spansAll_append]
    exact exists_congr fun _ => and_congr spansAll_factors ih

theorem spansAll_joinFront {r : Regex} {rs : List Regex} {u v : List Char} :
    SpansAll t (joinFront r rs) u v ↔ SpansAll t (r :: rs) u v := by
  unfold joinFront
  split
  · simp only [SpansAll, Spans, List.append_assoc]
    constructor
    · rintro ⟨w, rfl, h⟩
      exact ⟨_, rfl, w, rfl, h⟩
    · rintro ⟨_, rfl, w, rfl, h⟩
      exact ⟨w, rfl, h⟩
  · exact Iff.rfl

theorem spansAll_joinTexts {rs : List Regex} : ∀ {u v : List Char},
    SpansAll t (joinTexts rs) u v ↔ SpansAll t rs u v := by
  induction rs with
  | nil => exact Iff.rfl
  | cons r rs ih => exact spansAll_joinFront.trans (exists_congr fun _ => and_congr_right fun _ => ih)

/-- **The plain form of a sequence matches what its parts match one after another.** -/
theorem spans_sequence {rs : List Regex} {u v : List Char} :
    Spans t (sequence rs) u v ↔ SpansAll t rs u v := by
  rw [sequence, spans_ofFactors, spansAll_joinTexts, spansAll_flatMap_factors]

theorem isFlat_ofFactors : ∀ {rs : List Regex}, (∀ r ∈ rs, r.isFlat) → (ofFactors rs).isFlat
  | [], _ => rfl
  | [r], h => h r (List.mem_singleton_self r)
  | r :: s :: rs, h => by
    have h := List.forall_mem_cons.1 h
    simp [ofFactors, isFlat, h.1, isFlat_ofFactors h.2]

theorem isFlat_of_mem_factors : ∀ {r : Regex}, r.isFlat → ∀ f ∈ r.factors, f.isFlat
  | seq a b, h, f, hf => by
    obtain ⟨ha, hb⟩ : a.isFlat ∧ b.isFlat := by simpa [isFlat] using h
    rcases List.mem_cons.1 hf with rfl | hf
    · exact ha
    · exact isFlat_of_mem_factors hb f hf
  | empty, _, _, hf => absurd hf List.not_mem_nil
  | text _, h, _, hf | set _, h, _, hf | look _, h, _, hf | group _, h, _, hf | alt _ _, h, _, hf
  | many .., h, _, hf => List.mem_singleton.1 hf ▸ h

theorem isFlat_of_mem_joinFront {r : Regex} {rs : List Regex} (h : ∀ f ∈ r :: rs, f.isFlat) :
    ∀ f ∈ joinFront r rs, f.isFlat := by
  unfold joinFront
  split
  · have h := (List.forall_mem_cons.1 (List.forall_mem_cons.1 h).2).2
    exact List.forall_mem_cons.2 ⟨rfl, h⟩
  · exact h

theorem isFlat_of_mem_joinTexts : ∀ {rs : List Regex}, (∀ r ∈ rs, r.isFlat) → ∀ r ∈ joinTexts rs, r.isFlat
  | [], h => h
  | r :: rs, h => by
    have h := List.forall_mem_cons.1 h
    exact isFlat_of_mem_joinFront (List.forall_mem_cons.2 ⟨h.1, isFlat_of_mem_joinTexts h.2⟩)

theorem isFlat_sequence {rs : List Regex} (h : ∀ r ∈ rs, r.isFlat) : (sequence rs).isFlat := by
  refine isFlat_ofFactors (isFlat_of_mem_joinTexts fun f hf => ?_)
  obtain ⟨r, hr, hf⟩ := List.mem_flatMap.1 hf
  exact isFlat_of_mem_factors (h r hr) f hf

end FraudScreen.Regex
