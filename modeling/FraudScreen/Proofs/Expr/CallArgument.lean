import FraudScreen.Proofs.Expr.Enclosing

/-!
# A call with its argument in parentheses

Two texts may differ in that the argument of one call of `truthy` has parentheses of its own in the second:
`CallEnclosed`. So do the texts that are rendered from outlines in which the operand of one negation has
parentheses (`PartsEnclosed.joinPieces`), such as those of `Taken.callEnclosed`.
-/
namespace FraudScreen.Expr

open Text Reader

/-! ## Texts -/

/-- The text is read from outside of literals to outside if enough parentheses are open in front of it. It may leave
others open. `slash` says whether a slash may stand in front of it. -/
def Opens (slash : Bool) (cs : List Char) : Prop :=
  ∃ least : Nat, ∀ (d : Nat) (b : Bool), least ≤ d → (b → slash) →
    ∃ d' b', read .evaluator (outside d b) cs = some (outside d' b')

theorem Opens.nil (s : Bool) : Opens s [] := ⟨0, fun d b _ _ => ⟨d, b, rfl⟩⟩

theorem Reads.opens {s t : Bool} {as bs : List Char} (ha : Reads s as t) (hb : Opens t bs) : Opens s (as ++ bs) := by
  obtain ⟨least, hb⟩ := hb
  refine ⟨least, fun d b hd h => ?_⟩
  obtain ⟨b₁, h₁, hr₁⟩ := ha d b h
  obtain ⟨d₂, b₂, hr₂⟩ := hb d b₁ hd h₁
  exact ⟨d₂, b₂, by rw [read_append, hr₁, Option.bind_some, hr₂]⟩

theorem Opens.opening {cs : List Char} (h : Opens false cs) (s : Bool) : Opens s ('(' :: cs) := by
  obtain ⟨least, h⟩ := h
  refine ⟨least, fun d b hd _ => ?_⟩
  have hs : step .evaluator (outside d b) '(' = some (outside (d + 1) false) := by simp [step, Language.isQuote]
  obtain ⟨d', b', hr⟩ := h (d + 1) false (Nat.le_succ_of_le hd) id
  exact ⟨d', b', by rw [read_cons, hs, Option.bind_some, hr]⟩

theorem Opens.closing {cs : List Char} (h : Opens false cs) (s : Bool) : Opens s (')' :: cs) := by
  obtain ⟨least, h⟩ := h
  refine ⟨least + 1, fun d b hd _ => ?_⟩
  obtain ⟨e, rfl⟩ := Nat.exists_eq_add_of_lt hd
  have hs : step .evaluator (outside (least + e + 1) b) ')' = some (outside (least + e) false) := by
    simp [step, Language.isQuote]
  obtain ⟨d', b', hr⟩ := h (least + e) false (Nat.le_add_right ..) id
  exact ⟨d', b', by rw [read_cons, hs, Option.bind_some, hr]⟩

theorem Reads.blank {cs : List Char} (h : ∀ c ∈ cs, isBlank c) : Reads false cs false :=
  .quiet fun c hc => isOrdinary_of_isBlank (h c hc)

/-- Blanks in front can be left out. -/
theorem Opens.of_blank {pre cs : List Char} (hpre : ∀ c ∈ pre, isBlank c) (h : Opens false (pre ++ cs)) :
    Opens false cs := by
  obtain ⟨least, h⟩ := h
  refine ⟨least, fun d b hd hb => ?_⟩
  obtain ⟨b₁, h₁, hr₁⟩ := Reads.blank hpre d b hb
  obtain rfl : b₁ = b := by cases b <;> cases b₁ <;> simp_all
  obtain ⟨d', b', hr⟩ := h d b₁ hd hb
  rw [read_append, hr₁, Option.bind_some] at hr
  exact ⟨d', b', hr⟩

/-- A negated call of `truthy`, with this text as its argument in the first text and with the argument in parentheses
in the second. -/
inductive CallEnclosed (slash : Bool) (argument : List Char) : List Char → List Char → Prop where
  | intro {front : List Char} (h : Opens slash front) (back : List Char) :
      CallEnclosed slash argument (front ++ '!' :: (callText argument ++ back))
        (front ++ '!' :: (callText ('(' :: (argument ++ [')'])) ++ back))

namespace CallEnclosed

variable {s t : Bool} {argument as cs cs' : List Char}

theorem append (h : CallEnclosed s argument cs cs') (bs : List Char) :
    CallEnclosed s argument (cs ++ bs) (cs' ++ bs) := by
  obtain ⟨h, back⟩ := h
  have hi : CallEnclosed s argument _ _ := intro h (back ++ bs)
  simpa using hi

theorem prepend (ha : Reads s as t) (h : CallEnclosed t argument cs cs') :
    CallEnclosed s argument (as ++ cs) (as ++ cs') := by
  obtain ⟨h, back⟩ := h
  have hi : CallEnclosed s argument _ _ := intro (ha.opens h) back
  simpa using hi

theorem opening (h : CallEnclosed false argument cs cs') (s : Bool) :
    CallEnclosed s argument ('(' :: cs) ('(' :: cs') := by
  obtain ⟨h, back⟩ := h
  exact intro (h.opening s) back

theorem closing (h : CallEnclosed false argument cs cs') (s : Bool) :
    CallEnclosed s argument (')' :: cs) (')' :: cs') := by
  obtain ⟨h, back⟩ := h
  exact intro (h.closing s) back

end CallEnclosed

/-! ## Wrapping -/

theorem solid_not_callText (cs : List Char) : Solid ('!' :: callText cs) where
  front := ⟨'!', _, rfl, rfl⟩
  back := ⟨'!' :: (truthyName.toList ++ '(' :: cs), ')', by simp [callText], rfl⟩

/-- A solid text makes what is around it solid, up to the blanks at the ends. -/
theorem exists_solid (front back : List Char) : ∃ pre front' back' post,
    front = pre ++ front' ∧ back = back' ++ post ∧ (∀ c ∈ pre, isBlank c) ∧ (∀ c ∈ post, isBlank c) ∧
      ∀ {body : List Char}, Solid body → Solid (front' ++ (body ++ back')) := by
  obtain ⟨pre, front', rfl, hpre, hfront⟩ : ∃ pre front', front = pre ++ front' ∧ (∀ c ∈ pre, isBlank c) ∧
      (front' = [] ∨ ∃ a rest, front' = a :: rest ∧ isBlank a = false) := by
    rcases blank_or_front front with h | ⟨pre, a, rest, rfl, hpre, ha⟩
    · exact ⟨front, [], (List.append_nil _).symm, h, .inl rfl⟩
    · exact ⟨pre, a :: rest, rfl, hpre, .inr ⟨a, rest, rfl, ha⟩⟩
  obtain ⟨back', post, rfl, hpost, hback⟩ : ∃ back' post, back = back' ++ post ∧ (∀ c ∈ post, isBlank c) ∧
      (back' = [] ∨ ∃ rest z, back' = rest ++ [z] ∧ isBlank z = false) := by
    rcases blank_or_front back.reverse with h | ⟨post, z, rest, he, hpost, hz⟩
    · exact ⟨[], back, rfl, fun c hc => h c (List.mem_reverse.2 hc), .inl rfl⟩
    · refine ⟨rest.reverse ++ [z], post.reverse, ?_, by simpa using hpost, .inr ⟨_, z, rfl, hz⟩⟩
      rw [← List.reverse_reverse back, he]
      simp
  refine ⟨pre, front', back', post, rfl, rfl, hpre, hpost, fun {body} hbody => ⟨?_, ?_⟩⟩
  · rcases hfront with rfl | ⟨a, rest, rfl, ha⟩
    · obtain ⟨a, rest, rfl, ha⟩ := hbody.front
      exact ⟨a, _, rfl, ha⟩
    · exact ⟨a, _, rfl, ha⟩
  · rcases hback with rfl | ⟨rest, z, rfl, hz⟩
    · obtain ⟨rest, z, rfl, hz⟩ := hbody.back
      exact ⟨front' ++ rest, z, by simp, hz⟩
    · exact ⟨front' ++ (body ++ rest), z, by simp, hz⟩

theorem CallEnclosed.wrap {argument cs cs' : List Char} (h : CallEnclosed false argument cs cs') :
    CallEnclosed false argument (wrapOperand cs) (wrapOperand cs') := by
  obtain ⟨hf, back⟩ := h
  rename_i front
  obtain ⟨pre, front', back', post, rfl, rfl, hpre, hpost, hsolid⟩ := exists_solid front back
  have hw (cs : List Char) : wrapOperand (pre ++ front' ++ '!' :: (callText cs ++ (back' ++ post))) =
      pre ++ (truthyName.toList ++ '(' :: front') ++ '!' :: (callText cs ++ (back' ++ ')' :: post)) := by
    have he := wrapOperand_eq hpre (hsolid (solid_not_callText cs)) hpost
    have ha : pre ++ front' ++ '!' :: (callText cs ++ (back' ++ post)) =
        pre ++ (front' ++ ('!' :: callText cs ++ back') ++ post) := by simp
    rw [ha, he, callText]
    simp
  rw [hw, hw]
  have htruthy : Reads false truthyName.toList false := .quiet (List.all_eq_true.1 (by decide))
  exact .intro ((Reads.blank hpre).opens (htruthy.opens ((hf.of_blank hpre).opening false))) _

/-! ## Rendering -/

/-- What a connective has ended is rendered first, and alike whatever follows it. -/
theorem joinPieces_linked : ∀ (pieces : List Piece) (linked : List (List Char × Connective)) (current : List Char),
    ∃ more, ∀ before : List (List Char × Connective), before ++ linked ≠ [] →
      joinPieces ⟨before ++ linked, current⟩ pieces =
        (before.flatMap fun q => wrapOperand q.1 ++ q.2.symbol) ++ more
  | [], linked, current => by
    refine ⟨(linked.flatMap fun q => wrapOperand q.1 ++ q.2.symbol) ++ wrapOperand current, fun before h => ?_⟩
    simp [joinPieces, Clause.render, h]
  | .plain cs :: pieces, linked, current => joinPieces_linked pieces linked (current ++ cs)
  | .link op :: pieces, linked, current => by
    obtain ⟨more, h⟩ := joinPieces_linked pieces (linked ++ [(current, op)]) []
    refine ⟨more, fun before _ => ?_⟩
    have hm := h before (by simp)
    rwa [← List.append_assoc] at hm
  | .stop c :: pieces, linked, current => by
    refine ⟨(linked.flatMap fun q => wrapOperand q.1 ++ q.2.symbol) ++ wrapOperand current ++
      c :: joinPieces .empty pieces, fun before h => ?_⟩
    simp [joinPieces, Clause.render, h]

/-- The text since the last connective is wrapped up to where its operand ends, unless its clause has no
connective. -/
theorem joinPieces_current (linked : List (List Char × Connective)) : ∀ pieces : List Piece,
    (∃ post more, ∀ current, joinPieces ⟨linked, current⟩ pieces =
      (linked.flatMap fun q => wrapOperand q.1 ++ q.2.symbol) ++ (wrapOperand (current ++ post) ++ more)) ∨
    ∃ more, ∀ current, joinPieces ⟨linked, current⟩ pieces = current ++ more
  | [] => by
    by_cases hl : linked = []
    · exact .inr ⟨[], fun current => by simp [joinPieces, Clause.render, hl]⟩
    · exact .inl ⟨[], [], fun current => by simp [joinPieces, Clause.render, hl]⟩
  | .plain cs :: pieces => by
    rcases joinPieces_current linked pieces with ⟨post, more, h⟩ | ⟨more, h⟩
    · exact .inl ⟨cs ++ post, more, fun current => by rw [joinPieces, h, List.append_assoc]⟩
    · exact .inr ⟨cs ++ more, fun current => by rw [joinPieces, h, List.append_assoc]⟩
  | .link op :: pieces => by
    obtain ⟨more, h⟩ := joinPieces_linked pieces [] []
    refine .inl ⟨[], op.symbol ++ more, fun current => ?_⟩
    have hm := h (linked ++ [(current, op)]) (by simp)
    rw [List.append_nil] at hm
    rw [joinPieces, hm]
    simp
  | .stop c :: pieces => by
    by_cases hl : linked = []
    · exact .inr ⟨c :: joinPieces .empty pieces, fun current => by simp [joinPieces, Clause.render, hl]⟩
    · exact .inl ⟨[], c :: joinPieces .empty pieces, fun current => by simp [joinPieces, Clause.render, hl]⟩

theorem CallEnclosed.joinPieces {argument cs cs' : List Char} (h : CallEnclosed false argument cs cs')
    {linked : List (List Char × Connective)} (hl : ∀ q ∈ linked, ∃ s, Reads false q.1 s) (pieces : List Piece) :
    CallEnclosed false argument (FraudScreen.Expr.joinPieces ⟨linked, cs⟩ pieces)
      (FraudScreen.Expr.joinPieces ⟨linked, cs'⟩ pieces) := by
  rcases joinPieces_current linked pieces with ⟨post, more, he⟩ | ⟨more, he⟩
  · rw [he, he]
    exact .prepend (reads_linked hl) ((h.append post).wrap.append more)
  · rw [he, he]
    exact h.append more

mutual

theorem Part.Enclosed.render {operand : List Part} : ∀ {front : List Char} {p p' : Part},
    p.Enclosed operand front p' → ∀ {d d' : Nat} {s s' : Bool},
      read .evaluator (outside d s) front = some (outside d' s') →
        ∃ cs cs', p.render = .plain cs ∧ p'.render = .plain cs' ∧
          CallEnclosed s (joinPieces .empty (renderParts operand)) cs cs'
  | _, _, _, .here _, d, d', s, s', _ => by
    refine ⟨_, _, rfl, rfl, ?_⟩
    have hgroup : joinPieces .empty (renderParts [.group operand true]) =
        '(' :: (joinPieces .empty (renderParts operand) ++ [')']) := rfl
    rw [hgroup]
    have hc : CallEnclosed s (joinPieces .empty (renderParts operand)) _ _ := .intro (.nil s) []
    simpa [callText] using hc
  | _, _, _, .group closed h, d, d', s, s', hr => by
    have hs : step .evaluator (outside d s) '(' = some (outside (d + 1) false) := by simp [step, Language.isQuote]
    rw [read_cons, hs, Option.bind_some] at hr
    exact ⟨_, _, rfl, rfl, ((h.joinPieces hr .empty).opening s).append _⟩
  | _, _, _, .not hb h, d, d', s, s', hr => by
    rw [← List.cons_append, read_append, read_bang hb, Option.bind_some] at hr
    have hname : Reads s ('!' :: truthyName.toList) false :=
      .ordinary (List.cons_ne_nil _ _) (List.all_eq_true.1 (by decide))
    exact ⟨_, _, rfl, rfl, (CallEnclosed.prepend hname ((h.joinPieces hr .empty).opening false)).append _⟩

theorem PartsEnclosed.joinPieces {operand : List Part} : ∀ {front : List Char} {ps ps' : List Part},
    PartsEnclosed operand front ps ps' → ∀ {d d' : Nat} {s s' : Bool},
      read .evaluator (outside d s) front = some (outside d' s') → ∀ {k : Clause}, k.Reads s →
        CallEnclosed false (joinPieces .empty (renderParts operand))
          (FraudScreen.Expr.joinPieces k (renderParts ps)) (FraudScreen.Expr.joinPieces k (renderParts ps'))
  | _, _, _, .head hp back, d, d', s, s', hr, k, hk => by
    obtain ⟨cs, cs', hc, hc', h⟩ := hp.render hr
    rw [renderParts, renderParts, hc, hc']
    exact (CallEnclosed.prepend hk.current h).joinPieces hk.linked (renderParts back)
  | _, _, _, .tail (p := p) (.inl hp) h, d, d', s, s', hr, k, hk => by
    obtain ⟨t, hr, hpr⟩ := p.reads_render hp hr
    obtain ⟨before, k', hbefore, hk', hj⟩ := hk.advance hpr
    rw [renderParts, renderParts, hj, hj]
    exact .prepend hbefore (h.joinPieces hr hk')
  | _, _, _, .tail (.inr rfl) h, d, d', s, s', hr, k, hk => by
    obtain ⟨t, ht⟩ := hk.render
    rw [Part.print, List.singleton_append, read_cons] at hr
    obtain ⟨r, hs, hr⟩ := Option.bind_eq_some_iff.1 hr
    obtain ⟨-, rfl⟩ : d ≠ 0 ∧ outside (d - 1) false = r := by simpa [step, Language.isQuote] using hs
    exact .prepend ht ((h.joinPieces hr .empty).closing t)

end

section

variable {cs : List Char} {operand : List Part} (h : Taken cs operand)

include h

theorem Taken.withTruthiness_eq : withTruthinessChars cs = joinPieces .empty (renderParts operand) := by
  obtain ⟨ms, hp, hm⟩ := h.marks
  have ho : outline cs = operand := by
    have hcs := hm []
    rw [List.append_nil, marksOf, List.append_nil] at hcs
    have hs := settle_map_some operand []
    rw [List.append_nil, settle, List.append_nil] at hs
    rw [outline, hcs, hp.settle_eq, hs]
  rw [withTruthinessChars, ho]

/-- **Parentheses around the operand of a negation** go around the argument of its call, and nothing else changes. -/
theorem Taken.callEnclosed {before after : List Char} {e d : Nat} {b : Bool}
    (hread : read .evaluator (outside e false) before = some (outside d b)) (ha : EndsOperand after) :
    CallEnclosed false (withTruthinessChars cs) (withTruthinessChars (before ++ '!' :: ' ' :: (cs ++ after)))
      (withTruthinessChars (before ++ '!' :: ' ' :: '(' :: (cs ++ ')' :: after))) := by
  have hj := (h.enclosed_outline hread ha).joinPieces hread .empty
  rwa [← h.withTruthiness_eq] at hj

end

end FraudScreen.Expr
