import FraudScreen.Proofs.Screening.Sweep
import FraudScreen.Screening.Scanner

/-!
# Every pattern by itself

The accelerated database numbers its patterns, finds the places of literals and of other expressions apart and
sorts them by number. Each place is the first match of the expression of its pattern (`Accelerated.places_eq`), so a
database of either kind finds of each of its patterns what it would find of that pattern alone, in order of the
patterns: `Database.hits_compile`. What becomes of one pattern can therefore be said without regard to the list that
it stands in (`Database.hits_append_cons`), and how many patterns are compiled by asking each of them
(`Database.size_compile`).
-/
namespace FraudScreen.Screening

open Regex (spelled? parse_eq parse_escape find?_text)

/-! ## Numbering through -/

section

variable {α β γ : Type}

/-- What a function yields of the members of a list, with their numbers. -/
def numbered (g : α → Option β) (xs : List α) : List (Nat × β) :=
  xs.zipIdx.filterMap fun (x, i) => (g x).map (i, ·)

theorem mem_numbered {g : α → Option β} {xs : List α} {i : Nat} {b : β} :
    (i, b) ∈ numbered g xs ↔ ∃ x, xs[i]? = some x ∧ g x = some b := by
  simp only [numbered, List.mem_filterMap, Prod.exists, Option.map_eq_some_iff, Prod.mk.injEq,
    List.mem_zipIdx_iff_getElem?]
  constructor
  · rintro ⟨x, _, hx, _, hg, rfl, rfl⟩
    exact ⟨x, hx, hg⟩
  · rintro ⟨x, hx, hg⟩
    exact ⟨x, i, hx, b, hg, rfl, rfl⟩

theorem numbered_increasing (g : α → Option β) (xs : List α) :
    (numbered g xs).Pairwise (·.1 < ·.1) := by
  have hz : xs.zipIdx.Pairwise (·.2 < ·.2) := by
    rw [← List.pairwise_map (f := Prod.snd), List.zipIdx_map_snd]
    exact List.pairwise_lt_range'
  refine List.pairwise_filterMap.2 (hz.imp fun {a b} hab c hc d hd => ?_)
  obtain ⟨_, _, rfl⟩ := Option.map_eq_some_iff.1 hc
  obtain ⟨_, _, rfl⟩ := Option.map_eq_some_iff.1 hd
  exact hab

/-- With the member looked up again by its number, the numbers are of no account. -/
theorem numbered_filterMap (g : α → Option β) (f : α → β → γ) (xs : List α) :
    ((numbered g xs).filterMap fun (i, b) => xs[i]?.map (f · b)) =
      xs.filterMap fun x => (g x).map (f x) := by
  have hz : ∀ q ∈ xs.zipIdx, ((g q.1).map (q.2, ·)).bind (fun (i, b) => xs[i]?.map (f · b)) =
      (g q.1).map (f q.1) := by
    rintro ⟨x, i⟩ hq
    have hx : xs[i]? = some x := List.mem_zipIdx_iff_getElem?.1 hq
    cases g x <;> simp [hx]
  rw [numbered, List.filterMap_filterMap, List.filterMap_congr hz]
  conv => rhs; rw [← List.zipIdx_map_fst 0 xs, List.filterMap_map]
  rfl

end

/-! ## What is compiled -/

/-- The literal of a search, given backwards. -/
def Search.literal? : Search → Option (List Char)
  | .literal l => some l
  | .regex _ => none

def Search.regex? : Search → Option Regex
  | .literal _ => none
  | .regex r => some r

/-- The expression that finds what a search is for. -/
def Search.expression : Search → Regex
  | .literal l => .text l.reverse
  | .regex r => r

/-- If the pattern is a literal text, an expression for the text is not too large. -/
def Pattern.IsWithinLimits (p : Pattern) : Prop := p.isPlainLiteral → (Regex.text p.text.toList).fits

instance (p : Pattern) : Decidable p.IsWithinLimits :=
  inferInstanceAs (Decidable (p.isPlainLiteral → (Regex.text p.text.toList).fits))

theorem Entry.ofPattern?_eq {p : Pattern} (h : p.IsWithinLimits) :
    Entry.ofPattern? p = (Search.ofPattern? p).map fun s => ⟨p, s.expression⟩ := by
  unfold Entry.ofPattern? Search.ofPattern?
  split
  · rfl
  · rename_i hne
    have hne : p.text.toList ≠ [] := fun e => hne (by simpa using e)
    split
    · rename_i hp
      -- the source of a literal text is its escaped form
      have hs : p.source = Regex.escape p.text.toList := by
        obtain ⟨⟨hr, hk⟩, hc⟩ : (p.isRegex = false ∧ p.kind ≠ .wildcard) ∧ p.caseSensitive = true := by
          simpa [Pattern.isPlainLiteral] using hp
        unfold Pattern.source Pattern.body
        rw [hr, hc]
        cases hk' : p.kind with
        | wildcard => exact absurd hk' hk
        | exact => rfl
        | cidr => rfl
      rw [hs, parse_escape hne, if_pos (h hp)]
      simp [Search.expression]
    · rw [Option.map_map]
      rfl

/-- The patterns that are neither empty nor unreadable, with the way to look for them. -/
def searches (ps : List Pattern) : List (Pattern × Search) :=
  ps.filterMap fun p => (Search.ofPattern? p).map (p, ·)

namespace Accelerated

variable (ps : List Pattern)

theorem compile_patterns : (compile ps).patterns = ((searches ps).map (·.1)).toArray := rfl

theorem compile_literals : (compile ps).literals = numbered (·.2.literal?) (searches ps) := by
  refine congrArg (List.filterMap · _) (funext fun ((_, s), i) => ?_)
  cases s <;> rfl

theorem compile_regexes : (compile ps).regexes = numbered (·.2.regex?) (searches ps) := by
  refine congrArg (List.filterMap · _) (funext fun ((_, s), i) => ?_)
  cases s <;> rfl

theorem getElem?_patterns (i : Nat) : (compile ps).patterns[i]? = (searches ps)[i]?.map (·.1) := by
  rw [compile_patterns, List.getElem?_toArray, List.getElem?_map]

theorem admits_eq (category : Option String) (i : Nat) :
    (compile ps).admits category i = (searches ps)[i]?.any (·.1.isIn category) := by
  rw [admits, getElem?_patterns, Option.any_map]

end Accelerated

/-! ## The places of the matches -/

namespace Accelerated

variable {ps : List Pattern} {text : List Char} {category : Option String}

/-- The first match of a search for a pattern that passes the filter. -/
def found? (text : List Char) (category : Option String) (q : Pattern × Search) : Option (Nat × Nat) :=
  if q.1.isIn category then q.2.expression.find? text.toArray else none

/-- The first matches of all patterns, in order of the patterns. -/
def firstMatches (ps : List Pattern) (text : List Char) (category : Option String) : List Place :=
  (numbered (found? text category) (searches ps)).map fun (i, m) => ⟨i, m.1, m.2⟩

theorem mem_firstMatches {p : Place} : p ∈ firstMatches ps text category ↔
    ∃ q, (searches ps)[p.index]? = some q ∧ q.1.isIn category ∧
      q.2.expression.find? text.toArray = some (p.start, p.stop) := by
  have hm : p ∈ firstMatches ps text category ↔
      (p.index, p.start, p.stop) ∈ numbered (found? text category) (searches ps) := by
    rw [firstMatches, List.mem_map]
    constructor
    · rintro ⟨⟨i, m⟩, h, rfl⟩
      exact h
    · exact fun h => ⟨_, h, rfl⟩
  simp only [hm, mem_numbered, found?, Option.ite_none_right_eq_some]

theorem firstMatches_increasing (ps : List Pattern) (text : List Char) (category : Option String) :
    (firstMatches ps text category).Pairwise (·.index < ·.index) :=
  List.pairwise_map.2 (numbered_increasing ..)

theorem mem_literalPlaces {p : Place} : p ∈ literalPlaces (compile ps) text category ↔
    ∃ a l, (searches ps)[p.index]? = some (a, .literal l) ∧ a.isIn category ∧
      (Regex.text l.reverse).find? text.toArray = some (p.start, p.stop) := by
  have hn : ((compile ps).literals.map (·.1)).Nodup := by
    rw [compile_literals]
    exact (List.pairwise_map.2 (numbered_increasing ..)).imp Nat.ne_of_lt
  have hl : ∀ {l : List Char}, (p.index, l) ∈ (compile ps).literals ↔
      ∃ a, (searches ps)[p.index]? = some (a, .literal l) := by
    intro l
    rw [compile_literals, mem_numbered]
    constructor
    · rintro ⟨⟨a, s | s⟩, hq, hs⟩
      · cases hs
        exact ⟨a, hq⟩
      · cases hs
    · exact fun ⟨a, ha⟩ => ⟨_, ha, rfl⟩
  have hf : ∀ {l : List Char}, (p.index, l) ∈ (compile ps).literals →
      (p ∈ firstPlaces [] (sweep (compile ps).literals [] 0 text) ↔
        (Regex.text l.reverse).find? text.toArray = some (p.start, p.stop)) := by
    intro l hm
    rw [mem_firstPlaces_sweep (w := l.reverse) hn (by simpa using hm), find?_text]
  rw [literalPlaces, List.mem_filter, admits_eq]
  constructor
  · rintro ⟨hp, hc⟩
    obtain ⟨_, w, hw, -⟩ := mem_sweep_iff_begins.1 (List.mem_of_find?_eq_some (mem_firstPlaces.1 hp).2)
    obtain ⟨a, ha⟩ := hl.1 hw
    exact ⟨a, _, ha, by simpa [ha] using hc, (hf hw).1 hp⟩
  · rintro ⟨a, l, ha, hc, hs⟩
    exact ⟨(hf (hl.2 ⟨a, ha⟩)).2 hs, by simpa [ha] using hc⟩

theorem mem_regexPlaces {p : Place} : p ∈ regexPlaces (compile ps) text category ↔
    ∃ a r, (searches ps)[p.index]? = some (a, .regex r) ∧ a.isIn category ∧
      r.find? text.toArray = some (p.start, p.stop) := by
  have hr : ∀ {i : Nat} {r : Regex}, (i, r) ∈ (compile ps).regexes ↔
      ∃ a, (searches ps)[i]? = some (a, .regex r) := by
    intro i r
    rw [compile_regexes, mem_numbered]
    constructor
    · rintro ⟨⟨a, s | s⟩, hq, hs⟩
      · cases hs
      · cases hs
        exact ⟨a, hq⟩
    · exact fun ⟨a, ha⟩ => ⟨_, ha, rfl⟩
  simp only [regexPlaces, List.mem_filterMap, List.mem_filter, Prod.exists, Bool.and_eq_true, admits_eq,
    Option.map_eq_some_iff]
  constructor
  · rintro ⟨i, r, ⟨hm, -, hc⟩, a, b, hab, rfl⟩
    obtain ⟨q, hq⟩ := hr.1 hm
    exact ⟨q, r, hq, by simpa [hq] using hc, hab⟩
  · rintro ⟨a, r, ha, hc, hf⟩
    refine ⟨p.index, r, ⟨hr.2 ⟨a, ha⟩, by simp [Regex.isMatch, hf], by simpa [ha] using hc⟩, ?_⟩
    exact ⟨_, _, hf, rfl⟩

theorem nodup_places (ps : List Pattern) (text : List Char) (category : Option String) :
    (literalPlaces (compile ps) text category ++ regexPlaces (compile ps) text category).Nodup := by
  refine List.nodup_append.2 ⟨?_, ?_, fun p hl q hr e => ?_⟩
  · exact ((firstPlaces_indices_ne _ _).filter _).imp fun h e => h (congrArg Place.index e)
  · refine List.pairwise_filterMap.2 ?_
    rw [compile_regexes]
    refine ((numbered_increasing ..).filter _).imp fun {a b} hab p hp q hq e => ?_
    obtain ⟨_, _, rfl⟩ := Option.map_eq_some_iff.1 hp
    obtain ⟨_, _, rfl⟩ := Option.map_eq_some_iff.1 hq
    exact Nat.ne_of_lt hab (congrArg Place.index e)
  · -- a number stands for a literal or for another expression
    obtain ⟨_, _, h1, -⟩ := mem_literalPlaces.1 hl
    obtain ⟨_, _, h2, -⟩ := mem_regexPlaces.1 hr
    rw [e, h2] at h1
    cases h1

/-- The places of all matches, sorted, are the first matches in order of the patterns. -/
theorem places_eq (ps : List Pattern) (text : List Char) (category : Option String) :
    (compile ps).places text category = firstMatches ps text category := by
  have hmem : ∀ p, p ∈ literalPlaces (compile ps) text category ++ regexPlaces (compile ps) text category ↔
      p ∈ firstMatches ps text category := by
    intro p
    rw [List.mem_append, mem_literalPlaces, mem_regexPlaces, mem_firstMatches]
    constructor
    · rintro (⟨a, l, h⟩ | ⟨a, r, h⟩)
      · exact ⟨(a, .literal l), h⟩
      · exact ⟨(a, .regex r), h⟩
    · rintro ⟨⟨a, l | r⟩, h⟩
      · exact .inl ⟨a, l, h⟩
      · exact .inr ⟨a, r, h⟩
  have hinc := firstMatches_increasing ps text category
  have hperm : ((compile ps).places text category).Perm (firstMatches ps text category) := by
    refine (List.mergeSort_perm _ _).trans ((List.perm_ext_iff_of_nodup (nodup_places ..) ?_).2 hmem)
    exact hinc.imp fun h e => Nat.ne_of_lt h (congrArg Place.index e)
  have hsorted : ((compile ps).places text category).Pairwise (·.index ≤ ·.index) := by
    have h := @List.pairwise_mergeSort Place (fun a b => decide (a.index ≤ b.index))
      (fun a b c hab hbc => by simp only [decide_eq_true_eq] at *; omega)
      (fun a b => by simp only [Bool.or_eq_true, decide_eq_true_eq]; omega)
      (literalPlaces (compile ps) text category ++ regexPlaces (compile ps) text category)
    exact h.imp of_decide_eq_true
  refine List.Perm.eq_of_pairwise (fun a b ha hb hab hba => ?_) hsorted (hinc.imp Nat.le_of_lt) hperm
  -- two first matches with one number are one
  obtain ⟨q, hq, -, hf⟩ := mem_firstMatches.1 (hperm.mem_iff.1 ha)
  obtain ⟨q', hq', -, hf'⟩ := mem_firstMatches.1 hb
  have hi : a.index = b.index := Nat.le_antisymm hab hba
  obtain ⟨i, s, t⟩ := a
  obtain ⟨j, s', t'⟩ := b
  simp_all

/-- The matches are the first matches of the searches, in order of the patterns. -/
theorem hits_eq_filterMap (ps : List Pattern) (text : List Char) (category : Option String) :
    (compile ps).hits text category =
      (searches ps).filterMap fun q => (found? text category q).map fun m => Hit.ofSpan q.1 text m.1 m.2 := by
  rw [← numbered_filterMap (found? text category) fun q m => Hit.ofSpan q.1 text m.1 m.2, hits, places_eq,
    hitsAt, firstMatches, List.filterMap_map]
  refine List.filterMap_congr fun (i, m) _ => ?_
  simp only [Function.comp_apply, getElem?_patterns, Option.map_map]
  rfl

end Accelerated

/-! ## One pattern -/

theorem Entry.pattern_of_ofPattern? {p : Pattern} {e : Entry} (h : Entry.ofPattern? p = some e) : e.pattern = p := by
  unfold Entry.ofPattern? at h
  split at h
  · cases h
  · obtain ⟨r, -, rfl⟩ := Option.map_eq_some_iff.1 h
    rfl

/-- Whatever the source of the pattern spells, no machine for it is too large. -/
def Pattern.IsSmall (p : Pattern) : Prop := ∀ r, spelled? p.source = some r → r.fits

theorem Pattern.isSmall_iff {p : Pattern} {r : Regex} (h : spelled? p.source = some r) : p.IsSmall ↔ r.fits := by
  refine ⟨fun hs => hs r h, fun hf s hs => ?_⟩
  rw [h, Option.some_inj] at hs
  exact hs ▸ hf

namespace Method

/-- The expression that finds a pattern, if the pattern is compiled. -/
def expression? (m : Method) (p : Pattern) : Option Regex :=
  match m with
  | accelerated => (Search.ofPattern? p).map (·.expression)
  | fallback => (Entry.ofPattern? p).map (·.regex)

/-- The match of a pattern that is compiled and passes the filter. -/
def hit? (m : Method) (text : List Char) (category : Option String) (p : Pattern) : Option Hit :=
  if p.isIn category then
    (m.expression? p).bind fun r => (r.find? text.toArray).map fun (i, j) => .ofSpan p text i j
  else none

variable {m : Method} {p : Pattern}

theorem expression?_empty (h : p.text = "") : m.expression? p = none := by
  cases m <;> simp [expression?, Search.ofPattern?, Entry.ofPattern?, h]

theorem hit?_empty {text : List Char} {category : Option String} (h : p.text = "") :
    m.hit? text category p = none := by
  simp [hit?, expression?_empty h]

/-- The expression of a pattern that is no literal text is the one that its source reads as. -/
theorem expression?_of_not_plain (hne : p.text ≠ "") (hp : p.isPlainLiteral = false) :
    m.expression? p = Regex.parse p.source := by
  have hne : p.text.isEmpty = false := by simpa using hne
  cases m
  · simp only [expression?, Search.ofPattern?, hne, hp, Option.map_map, Bool.false_eq_true, if_false]
    exact Option.map_id'
  · simp only [expression?, Entry.ofPattern?, hne, Option.map_map, Bool.false_eq_true, if_false]
    exact Option.map_id'

/-- The expression of a literal text is the text. -/
theorem expression?_of_plain (hne : p.text ≠ "") (hp : p.isPlainLiteral)
    (hm : m = .accelerated ∨ p.IsWithinLimits) : m.expression? p = some (.text p.text.toList) := by
  have hs : Search.ofPattern? p = some (.literal p.text.toList.reverse) := by
    simp [Search.ofPattern?, hne, hp]
  cases m
  · simp [expression?, hs, Search.expression]
  · simp [expression?, Entry.ofPattern?_eq (hm.resolve_left (by decide)), hs, Search.expression]

/-- A pattern that is not empty is compiled if its source spells an expression that is small enough. -/
theorem isSome_expression? (hne : p.text ≠ "") (hs : (spelled? p.source).isSome) (hsmall : p.IsSmall) :
    (m.expression? p).isSome := by
  obtain ⟨r, hr⟩ := Option.isSome_iff_exists.1 hs
  have hparse : Regex.parse p.source = some r := by
    rw [parse_eq, hr, Option.filter_some, if_pos (hsmall r hr)]
  have hne : p.text.isEmpty = false := by simpa using hne
  cases m
  · simp only [expression?, Search.ofPattern?, hne, Bool.false_eq_true, if_false]
    split <;> simp [hparse]
  · simp [expression?, Entry.ofPattern?, hne, hparse]

end Method

namespace Database

variable (m : Method) (ps : List Pattern)

/-- **A database finds of each pattern what it would find of that pattern alone**, in order of the patterns. -/
theorem hits_compile (text : List Char) (category : Option String) :
    (compile m ps).hits text category = ps.filterMap (m.hit? text category) := by
  cases m with
  | accelerated =>
    rw [compile, hits, Accelerated.hits_eq_filterMap, searches, List.filterMap_filterMap]
    refine List.filterMap_congr fun p _ => ?_
    cases hs : Search.ofPattern? p <;> cases hc : p.isIn category <;>
      simp [Method.hit?, Method.expression?, Accelerated.found?, hs, hc]
  | fallback =>
    rw [compile, hits, Plain.hits, Plain.compile, List.filterMap_filterMap]
    refine List.filterMap_congr fun p _ => ?_
    cases he : Entry.ofPattern? p with
    | none => simp [Method.hit?, Method.expression?, he]
    | some e =>
      have hp : e.pattern = p := Entry.pattern_of_ofPattern? he
      simp [Method.hit?, Method.expression?, Entry.hit?, he, hp]

/-- The patterns that are compiled are those that have an expression. -/
theorem size_compile : (compile m ps).size = ps.countP fun p => (m.expression? p).isSome := by
  cases m with
  | accelerated =>
    rw [compile, size, Accelerated.size, Accelerated.compile_patterns, List.size_toArray, List.length_map, searches,
      List.length_filterMap_eq_countP]
    exact congrArg (List.countP · ps) (funext fun p => by simp [Method.expression?])
  | fallback =>
    rw [compile, size, Plain.size, Plain.compile, List.length_filterMap_eq_countP]
    exact congrArg (List.countP · ps) (funext fun p => by simp [Method.expression?])

/-- What is found of one pattern stands between what is found of those before it and of those after it. -/
theorem hits_append_cons (before after : List Pattern) (p : Pattern) (text : List Char) (category : Option String) :
    (compile m (before ++ p :: after)).hits text category =
      (compile m before).hits text category ++ (m.hit? text category p).toList ++
        (compile m after).hits text category := by
  simp only [hits_compile, List.filterMap_append, List.filterMap_cons, List.append_assoc]
  cases m.hit? text category p <;> rfl

end Database

end FraudScreen.Screening
