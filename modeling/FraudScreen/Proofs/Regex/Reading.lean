import FraudScreen.Regex.Parser

/-!
# Reading expressions piece by piece

A text that is made of pieces, each of which reads as a part by itself, reads as the sequence of these parts:
`spelled?_pieces`. What an expression spells is one thing and whether its machine is small enough another:
`parse_eq`.
-/
namespace FraudScreen.Regex

/-! ## What is spelled -/

/-- The expression that a text spells, if it spells one, whatever the size of the machine for it. -/
def spelled? (source : List Char) : Option Regex :=
  match read (source.length + 1) .initial 0 [] [] [] source with
  | some (p, _, []) => if p.depth ≤ deepest then some p.regex else none
  | _ => none

/-- An expression is refused if it is not spelled right, or if the machine for it is too large. -/
theorem parse_eq (source : List Char) : parse source = (spelled? source).filter (·.fits) := by
  unfold parse spelled?
  generalize read (source.length + 1) .initial 0 [] [] [] source = result
  match result with
  | some (p, _, []) =>
    by_cases h : p.depth ≤ deepest
    · cases hf : p.regex.fits <;> simp [h, hf, Option.filter_some]
    · simp [h]
  | some (_, _, _ :: _) | none => rfl

/-! ## Pieces -/

/-- The text `cs` reads as the part `p`, whatever was read before it and stands after it. Only a question mark
after it would count as a piece of it. -/
structure ReadsAs (cs : List Char) (p : Part) : Prop where
  ne_nil : cs ≠ []
  head_ne : cs.head? ≠ some '?'
  read_append : ∀ (nesting : Nat) (names : List String) (branches parts : List Part) {rest : List Char} {fuel : Nat},
    rest.head? ≠ some '?' → (cs ++ rest).length < fuel → ∃ fuel', rest.length < fuel' ∧
      read fuel .initial nesting names branches parts (cs ++ rest) =
        read fuel' .initial nesting names branches (p :: parts) rest

theorem skip_initial (cs : List Char) : Flags.initial.skip cs = cs := rfl

theorem literal_initial (c : Char) : Flags.initial.literal c = text [c] := by
  simp [Flags.literal, Flags.initial]

theorem read_nil (fuel nesting : Nat) (names : List String) (branches parts : List Part) :
    read (fuel + 1) .initial nesting names branches parts [] =
      some (.alternatives (.sequence parts :: branches), names, []) := by
  simp [read, skip_initial]

/-- Pieces one after another read as their parts, the latest of which comes first. -/
theorem read_pieces {nesting : Nat} {names : List String} {branches : List Part} :
    ∀ {ps : List (List Char × Part)} {parts : List Part} {fuel : Nat}, (∀ p ∈ ps, ReadsAs p.1 p.2) →
      (ps.flatMap (·.1)).length < fuel →
      read fuel .initial nesting names branches parts (ps.flatMap (·.1)) =
        some (.alternatives (.sequence ((ps.map (·.2)).reverse ++ parts) :: branches), names, [])
  | _, _, 0, _, hf => absurd hf (Nat.not_lt_zero _)
  | [], parts, fuel + 1, _, _ => read_nil fuel nesting names branches parts
  | (cs, p) :: ps, parts, fuel + 1, h, hf => by
    have h := List.forall_mem_cons.1 h
    have hrest : (ps.flatMap (·.1)).head? ≠ some '?' := by
      cases ps with
      | nil => simp
      | cons q ps =>
        have hq := h.2 q (List.mem_cons_self ..)
        rw [List.flatMap_cons, List.head?_append, Option.or_of_isSome (by simpa using hq.ne_nil)]
        exact hq.head_ne
    rw [List.flatMap_cons] at hf ⊢
    obtain ⟨fuel', hf', hr⟩ := h.1.read_append nesting names branches parts hrest hf
    rw [hr, read_pieces h.2 hf', List.map_cons, List.reverse_cons, List.append_assoc, List.singleton_append]

theorem depthOf_le {ps : List Part} (h : ∀ p ∈ ps, p.depth ≤ 1) : Part.depthOf ps ≤ 2 := by
  have hm : ∀ {ds : List Nat} {m : Nat}, m ≤ 1 → (∀ d ∈ ds, d ≤ 1) → ds.foldl max m ≤ 1 := by
    intro ds
    induction ds with
    | nil => exact fun hm _ => hm
    | cons d ds ih =>
      intro m hm hd
      have hd := List.forall_mem_cons.1 hd
      exact ih (Nat.max_le.2 ⟨hm, hd.1⟩) hd.2
  unfold Part.depthOf
  split
  · omega
  · have := h _ (List.mem_singleton_self _)
    omega
  · have := hm (Nat.zero_le 1) (List.forall_mem_map.2 h)
    omega

/-- **Pieces one after another spell the sequence of their parts.** -/
theorem spelled?_pieces {ps : List (List Char × Part)} (h : ∀ p ∈ ps, ReadsAs p.1 p.2)
    (hd : ∀ p ∈ ps, p.2.depth ≤ 1) :
    spelled? (ps.flatMap (·.1)) = some (sequence (ps.map (·.2.regex))) := by
  have hdepth : Part.depthOf (ps.map (·.2)).reverse ≤ deepest :=
    Nat.le_trans (depthOf_le fun p hp => by
      obtain ⟨q, hq, rfl⟩ := List.mem_map.1 (List.mem_reverse.1 hp)
      exact hd q hq) (by decide)
  simp only [spelled?, read_pieces h (Nat.lt_succ_self _), List.append_nil, Part.alternatives, Part.sequence,
    List.reverse_reverse, List.map_map, hdepth, if_true]
  rfl

/-! ## Characters -/

/-- The characters that begin something other than themselves outside of classes. -/
def syntaxCharacters : List Char := [')', '|', '*', '+', '?', '\x7b', '(', '[', '.', '^', '$', '\\']

/-- A piece that reads as a part in one step, whatever comes after it. -/
theorem ReadsAs.of_read {c : Char} {cs : List Char} {p : Part} (hc : c ≠ '?')
    (h : ∀ (fuel nesting : Nat) (names : List String) (branches parts : List Part) (rest : List Char),
      read (fuel + 1) .initial nesting names branches parts (c :: cs ++ rest) =
        read fuel .initial nesting names branches (p :: parts) rest) : ReadsAs (c :: cs) p where
  ne_nil := List.cons_ne_nil c cs
  head_ne := by simpa using hc
  read_append nesting names branches parts rest fuel _ hf := by
    obtain _ | fuel := fuel
    · exact absurd hf (Nat.not_lt_zero _)
    · refine ⟨fuel, ?_, h fuel nesting names branches parts rest⟩
      simp only [List.length_append, List.length_cons] at hf
      omega

/-- A character that begins nothing else stands for itself. -/
theorem readsAs_ordinary {c : Char} (h : c ∉ syntaxCharacters) : ReadsAs [c] (.leaf (text [c])) := by
  refine .of_read (fun e => h (e ▸ by decide)) fun fuel nesting names branches parts rest => ?_
  rw [List.singleton_append, read.eq_def]
  simp only [skip_initial, literal_initial]
  split
  case h_14 heq =>
    cases heq
    rfl
  -- every other case is about a character that begins something
  all_goals
    rename_i heq
    cases heq
  all_goals exact absurd (by decide) h

/-- A backslash takes away the meaning of the character after it. -/
theorem readsAs_backslash {c : Char} (h : c ∈ metaCharacters) : ReadsAs ['\\', c] (.leaf (text [c])) := by
  have he : ∀ rest, readEscape .initial (c :: rest) = some (.char c, rest) := fun rest => by simp [readEscape, h]
  exact .of_read (by decide) fun _ _ _ _ _ _ => by simp [read, skip_initial, he, literal_initial]

theorem readsAs_textStart : ReadsAs ['^'] (.leaf (.look .textStart)) :=
  .of_read (by decide) fun _ _ _ _ _ _ => rfl

theorem readsAs_textEnd : ReadsAs ['$'] (.leaf (.look .textEnd)) :=
  .of_read (by decide) fun _ _ _ _ _ _ => rfl

/-! ## Sets -/

/-- A set that is not a single range is no single character. -/
theorem oneOf_eq_set : ∀ {s : Text.CodeSet}, s.bounds.size ≠ 2 → oneOf s = .set s
  | ⟨⟨[]⟩⟩, _ | ⟨⟨[_]⟩⟩, _ | ⟨⟨_ :: _ :: _ :: _⟩⟩, _ => rfl
  | ⟨⟨[_, _]⟩⟩, h => absurd rfl h

/-- What a point stands for: every character but the line feed. -/
def lineCharacters : Text.CodeSet := negate (.single 10)

theorem bounds_lineCharacters : lineCharacters.bounds = #[0, 10, 11, 0xD800, 0xE000, 0x110000] := by
  decide +kernel

theorem readsAs_point : ReadsAs ['.'] (.leaf (.set lineCharacters)) := by
  have hp : Flags.initial.point? = some lineCharacters := rfl
  have hs : oneOf lineCharacters = .set lineCharacters := oneOf_eq_set (by simp [bounds_lineCharacters])
  exact .of_read (by decide) fun _ _ _ _ _ _ => by simp [read, skip_initial, hp, hs]

/-- The escape `\d` stands for the decimal digits of all scripts. -/
theorem readsAs_digit : ReadsAs ['\\', 'd'] (.leaf (.set Property.decimalNumber)) := by
  have hs : oneOf Property.decimalNumber = .set Property.decimalNumber := oneOf_eq_set (by decide +kernel)
  have he : ∀ rest, readEscape .initial ('d' :: rest) = some (.set Property.decimalNumber, rest) := fun _ => rfl
  exact .of_read (by decide) fun _ _ _ _ _ _ => by simp [read, skip_initial, he, hs]

/-! ## Repetitions -/

/-- The mark `cs` after a part asks for `least` to `most` times that part, as often as it can be. A question
mark after it would reverse that. -/
structure Repeats (cs : List Char) (least : Nat) (most : Option Nat) : Prop where
  ne_nil : cs ≠ []
  head_ne : cs.head? ≠ some '?'
  read_append : ∀ {fuel nesting : Nat} {names : List String} {branches parts : List Part} {p : Part}
      {rest : List Char}, p.isRepeatable → rest.head? ≠ some '?' →
      read (fuel + 1) .initial nesting names branches (p :: parts) (cs ++ rest) =
        read fuel .initial nesting names branches (p.repeated least most true :: parts) rest

/-- A piece with a mark after it reads as its part repeated. -/
theorem ReadsAs.repeated {cs mark : List Char} {p : Part} {least : Nat} {most : Option Nat} (h : ReadsAs cs p)
    (hm : Repeats mark least most) (hp : p.isRepeatable) : ReadsAs (cs ++ mark) (p.repeated least most true) where
  ne_nil := by simp [h.ne_nil]
  head_ne := by
    rw [List.head?_append, Option.or_of_isSome (by simpa using h.ne_nil)]
    exact h.head_ne
  read_append nesting names branches parts rest fuel hr hf := by
    have hmark : (mark ++ rest).head? ≠ some '?' := by
      rw [List.head?_append, Option.or_of_isSome (by simpa using hm.ne_nil)]
      exact hm.head_ne
    rw [List.append_assoc] at hf ⊢
    obtain ⟨fuel', hf', hread⟩ := h.read_append nesting names branches parts hmark hf
    have hpos := List.length_pos_iff.2 hm.ne_nil
    rw [List.length_append] at hf'
    obtain _ | fuel' := fuel'
    · exact absurd hf' (Nat.not_lt_zero _)
    · exact ⟨fuel', by omega, hread.trans (hm.read_append hp hr)⟩

theorem isWidthless_set (s : Text.CodeSet) : (set s).isWidthless = false := by
  have hcount : ∀ n, byteCount n ≠ 0 := fun n => by unfold byteCount; (repeat' split) <;> decide
  simp only [isWidthless, mostBytes]
  cases s.bounds.back? <;> simp [hcount]

/-- A set is repeated as it is asked for. -/
theorem repeated_set (s : Text.CodeSet) {least : Nat} {most : Option Nat} (h0 : most ≠ some 0) (h1 : most ≠ some 1)
    (greedy : Bool) : (set s).repeated least most greedy = .many (set s) least most greedy := by
  simp [repeated, isWidthless_set, h0, h1]

theorem repeats_star : Repeats ['*'] 0 none where
  ne_nil := List.cons_ne_nil _ _
  head_ne := by decide
  read_append {fuel nesting names branches parts p rest} hp hr := by
    rw [List.singleton_append, read.eq_def]
    simp only [skip_initial, hp, if_true]
    split
    · exact absurd rfl hr
    · rfl

/-- One to three times. -/
theorem repeats_counts : Repeats ['\x7b', '1', ',', '3', '\x7d'] 1 (some 3) where
  ne_nil := List.cons_ne_nil _ _
  head_ne := by decide
  read_append {fuel nesting names branches parts p rest} hp hr := by
    have hcounts : readCounts .initial ('1' :: ',' :: '3' :: '\x7d' :: rest) = some (1, some 3, rest) := by
      rfl
    rw [List.cons_append, read.eq_def]
    simp only [skip_initial, List.cons_append, List.nil_append, hcounts, hp, if_true]
    split
    · exact absurd rfl hr
    · rfl

end FraudScreen.Regex
