import FraudScreen.Proofs.Expr.Truthiness

/-!
# A negation with its operand in parentheses

Two outlines may differ in that one negation has its operand in parentheses in the second: `PartsEnclosed`. Where
what follows ends the operand that a negation takes, such are the outlines without and with parentheses around that
operand: `Taken.enclosed_outline`.
-/
namespace FraudScreen.Expr

open Text Reader

/-! ## Outlines -/

/-- A part in front of the negation: a whole one, or a closing parenthesis without a partner. -/
def Part.Ahead (p : Part) : Prop := p.Whole ∨ p = .stop ')'

def Loose.Ahead : Loose → Prop
  | none => True
  | some part => part.Ahead

theorem Loose.Whole.ahead : ∀ {l : Loose}, l.Whole → l.Ahead
  | none, _ => trivial
  | some _, h => .inl h

mutual

/-- The second part has the operand of one negation in parentheses. `front` is the text in front of the
negation. -/
inductive Part.Enclosed (operand : List Part) : List Char → Part → Part → Prop where
  | here (blanks : List Char) : Part.Enclosed operand [] (.not blanks operand) (.not blanks [.group operand true])
  | group {front : List Char} {body body' : List Part} (closed : Bool)
      (h : PartsEnclosed operand front body body') :
      Part.Enclosed operand ('(' :: front) (.group body closed) (.group body' closed)
  | not {front blanks : List Char} {ps ps' : List Part} (hb : ∀ c ∈ blanks, isBlank c)
      (h : PartsEnclosed operand front ps ps') :
      Part.Enclosed operand ('!' :: (blanks ++ front)) (.not blanks ps) (.not blanks ps')

inductive PartsEnclosed (operand : List Part) : List Char → List Part → List Part → Prop where
  | head {front : List Char} {p p' : Part} (h : Part.Enclosed operand front p p') (back : List Part) :
      PartsEnclosed operand front (p :: back) (p' :: back)
  | tail {front : List Char} {p : Part} {ps ps' : List Part} (hp : p.Ahead)
      (h : PartsEnclosed operand front ps ps') : PartsEnclosed operand (p.print ++ front) (p :: ps) (p :: ps')

end

section

variable {operand : List Part}

theorem Part.Enclosed.charOf?_eq_none {front : List Char} {part part' : Part} (p : Char → Bool)
    (h : part.Enclosed operand front part') : part.charOf? p = none ∧ part'.charOf? p = none := by
  cases h <;> exact ⟨rfl, rfl⟩

theorem PartsEnclosed.append {front : List Char} {ps ps' : List Part} (h : PartsEnclosed operand front ps ps') :
    ∀ {before : List Part}, WholeParts before →
      PartsEnclosed operand (printParts before ++ front) (before ++ ps) (before ++ ps')
  | [], _ => h
  | p :: before, hw => by
    have ht := (h.append hw.2).tail (.inl hw.1)
    rwa [← List.append_assoc] at ht

/-- A run of characters stops in front of the part with the negation, so both lists begin with the same one. -/
theorem spanChars_enclosed (p : Char → Bool) : ∀ {front : List Char} {ps ps' : List Part},
    PartsEnclosed operand front ps ps' → ∃ cs front', front = cs ++ front' ∧ WholeParts (cs.map .char) ∧
      (spanChars p ps).1 = cs ∧ (spanChars p ps').1 = cs ∧
        PartsEnclosed operand front' (spanChars p ps).2 (spanChars p ps').2
  | front, _, _, .head hp back => by
    obtain ⟨hc, hc'⟩ := hp.charOf?_eq_none p
    refine ⟨[], front, rfl, trivial, ?_⟩
    simp only [spanChars, hc, hc', true_and]
    exact .head hp back
  | _, _, _, .tail (p := q) hq ht => by
    obtain ⟨cs, front', rfl, hw, h1, h2, h'⟩ := spanChars_enclosed p ht
    cases hc : q.charOf? p with
    | none =>
      refine ⟨[], _, rfl, trivial, ?_⟩
      simp only [spanChars, hc, true_and]
      exact .tail hq ht
    | some c =>
      obtain ⟨rfl, -⟩ := charOf?_eq_some.1 hc
      have hchar : (Part.char c).Whole := hq.resolve_right Part.noConfusion
      refine ⟨c :: cs, front', rfl, ⟨hchar, hw⟩, ?_⟩
      simp only [spanChars, hc, h1, h2, true_and]
      exact h'

/-- Two lists are cut, and either the cut is behind the negation that differs or in front of it. -/
inductive Cut (operand : List Part) : List Char → List Part × List Part → List Part × List Part → Prop where
  | behind {front : List Char} {taken taken' : List Part} (left : List Part)
      (h : PartsEnclosed operand front taken taken') : Cut operand front (taken, left) (taken', left)
  | before {front : List Char} {taken left left' : List Part} (hw : WholeParts taken)
      (h : PartsEnclosed operand front left left') :
      Cut operand (printParts taken ++ front) (taken, left) (taken, left')

theorem Cut.cons {front : List Char} {cut cut' : List Part × List Part} (h : Cut operand front cut cut') {p : Part}
    (hp : p.Whole) : Cut operand (p.print ++ front) (p :: cut.1, cut.2) (p :: cut'.1, cut'.2) := by
  cases h with
  | behind left h => exact .behind left (.tail (.inl hp) h)
  | @before front taken _ _ hw h =>
    have hwp : WholeParts (p :: taken) := ⟨hp, hw⟩
    have hb := Cut.before hwp h
    rwa [printParts, List.append_assoc] at hb

theorem takeBare_enclosed {front : List Char} {ps ps' : List Part} (h : PartsEnclosed operand front ps ps') :
    Cut operand front (takeBare ps) (takeBare ps') := by
  obtain ⟨cs, front', rfl, hw, h1, h2, h'⟩ := spanChars_enclosed isOperandPart h
  have hb := Cut.before hw h'
  rw [print_chars] at hb
  unfold takeBare
  generalize spanChars isOperandPart ps = span, spanChars isOperandPart ps' = span' at h1 h2 h' hb ⊢
  obtain ⟨name, left⟩ := span
  obtain ⟨name', left'⟩ := span'
  obtain rfl : name = cs := h1
  obtain rfl : name' = name := h2
  dsimp only at h' hb ⊢
  -- only a name takes a group as its argument
  cases name' with
  | nil => exact hb
  | cons c cs =>
    cases h' with
    | head hp back =>
      cases hp with
      | here | not => exact hb
      | group closed hbody =>
        have ha := (PartsEnclosed.head (.group closed hbody) []).append hw
        rw [print_chars] at ha
        exact .behind back ha
    | @tail _ q _ _ hq ht =>
      match q with
      | .group body closed =>
        have hgroup : (Part.group body closed).Whole := hq.resolve_right Part.noConfusion
        have hwq : WholeParts ((c :: cs).map .char ++ [.group body closed]) :=
          wholeParts_append.2 ⟨hw, hgroup, trivial⟩
        have ha := Cut.before hwq ht
        rw [printParts_append, print_chars, List.append_assoc] at ha
        simpa [printParts] using ha
      | .char _ | .text _ | .link _ | .stop _ | .not .. => exact hb

theorem takeOperand_enclosed : ∀ {front : List Char} {ps ps' : List Part}, PartsEnclosed operand front ps ps' →
    Cut operand front (takeOperand ps) (takeOperand ps')
  | _, _, _, .head hp back => by
    have hone := PartsEnclosed.head hp []
    cases hp <;> exact .behind back hone
  | _, _, _, @PartsEnclosed.tail _ front q ps ps' hq ht => by
    have hone (hw : q.Whole) : Cut operand (q.print ++ front) ([q], ps) ([q], ps') := by
      have hwq : WholeParts [q] := ⟨hw, trivial⟩
      have hb := Cut.before hwq ht
      rwa [printParts, printParts, List.append_nil] at hb
    match q with
    | .group .. | .not .. | .text _ => exact hone (hq.resolve_right Part.noConfusion)
    | .link _ | .stop _ => exact takeBare_enclosed (.tail hq ht)
    | .char c =>
      by_cases hc : c = '-'
      · subst hc
        exact (takeBare_enclosed ht).cons (hq.resolve_right Part.noConfusion)
      · have hbare (ps : List Part) : takeOperand (.char c :: ps) = takeBare (.char c :: ps) := by
          simp [takeOperand, hc]
        rw [hbare, hbare]
        exact takeBare_enclosed (.tail hq ht)

theorem negateFront_enclosed {front : List Char} {ps ps' : List Part} (h : PartsEnclosed operand front ps ps') :
    PartsEnclosed operand ('!' :: front) (negateFront ps) (negateFront ps') := by
  obtain ⟨blanks, front', rfl, -, h1, h2, h'⟩ := spanChars_enclosed isBlank h
  have hb : ∀ c ∈ blanks, isBlank c := fun c hc => mem_spanChars (h1 ▸ hc)
  have hcut := takeOperand_enclosed h'
  simp only [negateFront, h1, h2]
  generalize takeOperand (spanChars isBlank ps).2 = cut, takeOperand (spanChars isBlank ps').2 = cut' at hcut ⊢
  cases hcut with
  | behind left ht => exact .head (.not hb ht) left
  | @before front taken _ _ hw hl =>
    have ht := PartsEnclosed.tail (p := .not blanks taken) (.inl ⟨hb, hw⟩) hl
    simpa [Part.print] using ht

/-! ## Levels -/

/-- Loose parts in front of others that, settled, differ in one negation. -/
theorem settle_enclosed {front : List Char} {ls ls' : List Loose}
    (h : PartsEnclosed operand front (settle ls) (settle ls')) : ∀ {before : List Loose}, (∀ l ∈ before, l.Ahead) →
      PartsEnclosed operand (before.flatMap Loose.print ++ front) (settle (before ++ ls)) (settle (before ++ ls'))
  | [], _ => h
  | none :: before, hw => negateFront_enclosed (settle_enclosed h (List.forall_mem_cons.1 hw).2)
  | some p :: before, hw => by
    have ht := (settle_enclosed h (List.forall_mem_cons.1 hw).2).tail (List.forall_mem_cons.1 hw).1
    rwa [← List.append_assoc] at ht

/-- The loose parts of a group under way, in reverse, differ in one negation, whatever follows them. -/
def LevelEnclosed (operand : List Part) (front : List Char) (inner inner' : List Loose) : Prop :=
  ∀ more, PartsEnclosed operand front (settle (inner.reverse ++ more)) (settle (inner'.reverse ++ more))

theorem LevelEnclosed.push {front : List Char} {inner inner' : List Loose}
    (h : LevelEnclosed operand front inner inner') (l : Loose) :
    LevelEnclosed operand front (l :: inner) (l :: inner') := by
  intro more
  rw [List.reverse_cons, List.reverse_cons, List.append_assoc, List.append_assoc]
  exact h (l :: more)

/-- A group that ends becomes a part of the one around it. -/
theorem levelEnclosed_group {front : List Char} {ls ls' : List Loose}
    (h : PartsEnclosed operand front (settle ls) (settle ls')) (closed : Bool) {parent : List Loose}
    (hw : ∀ l ∈ parent, l.Ahead) :
    LevelEnclosed operand (parent.reverse.flatMap Loose.print ++ '(' :: front)
      (some (.group (settle ls) closed) :: parent) (some (.group (settle ls') closed) :: parent) := by
  intro more
  have hg : PartsEnclosed operand ('(' :: front) (settle (some (.group (settle ls) closed) :: more))
      (settle (some (.group (settle ls') closed) :: more)) := .head (.group closed h) (settle more)
  rw [List.reverse_cons, List.reverse_cons, List.append_assoc, List.append_assoc]
  exact settle_enclosed hg fun l hl => hw l (List.mem_reverse.1 hl)

/-- Groups under way, the innermost first. One of them differs in a negation. -/
inductive StackEnclosed (operand : List Part) : List Char → List (List Loose) → List (List Loose) → Prop where
  | here {front : List Char} {inner inner' : List Loose} (h : LevelEnclosed operand front inner inner')
      {outer : List (List Loose)} (hw : ∀ group ∈ outer, ∀ l ∈ group, l.Ahead) :
      StackEnclosed operand (printOpen outer ++ front) (inner :: outer) (inner' :: outer)
  | there (inner : List Loose) {front : List Char} {outer outer' : List (List Loose)}
      (h : StackEnclosed operand front outer outer') : StackEnclosed operand front (inner :: outer) (inner :: outer')

theorem StackEnclosed.push (l : Loose) {front : List Char} {inner inner' : List Loose}
    {outer outer' : List (List Loose)}
    (h : StackEnclosed operand front (inner :: outer) (inner' :: outer')) :
    StackEnclosed operand front ((l :: inner) :: outer) ((l :: inner') :: outer') := by
  cases h with
  | here h hw => exact .here (h.push l) hw
  | there _ h => exact .there _ h

/-- The group that ends first becomes a part of the one around it. -/
theorem StackEnclosed.close (closed : Bool) {front : List Char} {inner inner' parent parent' : List Loose}
    {outer outer' : List (List Loose)}
    (h : StackEnclosed operand front (inner :: parent :: outer) (inner' :: parent' :: outer')) :
    StackEnclosed operand front ((some (.group (settle inner.reverse) closed) :: parent) :: outer)
      ((some (.group (settle inner'.reverse) closed) :: parent') :: outer') := by
  cases h with
  | here h hw =>
    obtain ⟨hp, ho⟩ := List.forall_mem_cons.1 hw
    have hg := h []
    rw [List.append_nil, List.append_nil] at hg
    have hs := StackEnclosed.here (levelEnclosed_group hg closed hp) ho
    simpa [printOpen] using hs
  | there _ h => exact h.push _

theorem nest_nil_enclosed : ∀ {outer outer' : List (List Loose)} {front : List Char} {inner inner' : List Loose},
    StackEnclosed operand front (inner :: outer) (inner' :: outer') →
      PartsEnclosed operand front (nest outer inner []) (nest outer' inner' [])
  | [], _, _, _, _, .here h _ => by
    have hg := h []
    rw [List.append_nil, List.append_nil] at hg
    rw [nest, nest]
    exact hg
  | parent :: outer, parent' :: outer', _, _, _, h => by
    rw [nest, nest]
    exact nest_nil_enclosed (h.close false)

theorem nest_enclosed : ∀ (ms : List Mark) {outer outer' : List (List Loose)} {front : List Char}
    {inner inner' : List Loose}, StackEnclosed operand front (inner :: outer) (inner' :: outer') →
      PartsEnclosed operand front (nest outer inner ms) (nest outer' inner' ms)
  | [], _, _, _, _, _, h => nest_nil_enclosed h
  | .opening :: ms, _, _, _, _, _, h => by
    rw [nest, nest]
    exact nest_enclosed ms (.there [] h)
  | .closing :: ms, [], _, _, _, _, .here h hw => by
    rw [nest, nest]
    exact nest_enclosed ms (StackEnclosed.push _ (.here h hw))
  | .closing :: ms, parent :: outer, parent' :: outer', _, _, _, h => by
    rw [nest, nest]
    exact nest_enclosed ms (h.close true)
  | .char c :: ms, _, _, _, _, _, h | .text c :: ms, _, _, _, _, _, h | .link c :: ms, _, _, _, _, _, h
  | .stop c :: ms, _, _, _, _, _, h | .bang :: ms, _, _, _, _, _, h => by
    rw [nest, nest]
    exact nest_enclosed ms (h.push _)

/-! ## The text in front -/

/-- The groups under way in front of the negation. Only outside of all of them can a closing parenthesis be without a
partner. -/
def LevelsAhead : List Loose → List (List Loose) → Prop
  | inner, [] => ∀ l ∈ inner, l.Ahead
  | inner, parent :: outer => (∀ l ∈ inner, l.Whole) ∧ LevelsAhead parent outer

theorem LevelsAhead.ahead : ∀ {inner : List Loose} {outer : List (List Loose)}, LevelsAhead inner outer →
    ∀ group ∈ inner :: outer, ∀ l ∈ group, l.Ahead
  | _, [], h => List.forall_mem_singleton.2 h
  | _, _ :: _, h => List.forall_mem_cons.2 ⟨fun l hl => (h.1 l hl).ahead, h.2.ahead⟩

theorem LevelsAhead.push {l : Loose} (hl : l.Whole) {inner : List Loose} : ∀ {outer : List (List Loose)},
    LevelsAhead inner outer → LevelsAhead (l :: inner) outer
  | [], h => List.forall_mem_cons.2 ⟨hl.ahead, h⟩
  | _ :: _, h => ⟨List.forall_mem_cons.2 ⟨hl, h.1⟩, h.2⟩

/-- A mark goes to the groups under way, and so does its text. -/
theorem exists_nest_mark {m : Mark} {d d' : Nat} (hm : m.leads d d') {inner : List Loose}
    {outer : List (List Loose)} (hw : LevelsAhead inner outer) :
    ∃ inner' outer', LevelsAhead inner' outer' ∧
      printOpen outer' ++ inner'.reverse.flatMap Loose.print =
        printOpen outer ++ inner.reverse.flatMap Loose.print ++ m.print ∧
      ∀ ms, nest outer inner (m :: ms) = nest outer' inner' ms := by
  cases m with
  | opening =>
    have hnew : LevelsAhead [] (inner :: outer) := ⟨fun _ hl => absurd hl List.not_mem_nil, hw⟩
    exact ⟨[], inner :: outer, hnew, by simp [printOpen, Mark.print], fun ms => by rw [nest]⟩
  | closing =>
    cases outer with
    | nil =>
      have hstop : LevelsAhead (some (.stop ')') :: inner) [] := List.forall_mem_cons.2 ⟨.inr rfl, hw⟩
      exact ⟨_, [], hstop, by simp [Mark.print, Loose.print, Part.print], fun ms => by rw [nest]⟩
    | cons parent outer =>
      obtain ⟨hi, ho⟩ := hw
      have hg : Loose.Whole (some (.group (settle inner.reverse) true)) :=
        ⟨rfl, whole_settle fun l hl => hi l (List.mem_reverse.1 hl)⟩
      refine ⟨_, outer, ho.push hg, ?_, fun ms => by rw [nest]⟩
      simp [printOpen, Mark.print, Loose.print, Part.print, print_settle]
  | char | text | link | stop | bang =>
    obtain ⟨-, l, hl, hwl⟩ := hm
    refine ⟨l :: inner, outer, hw.push hwl, ?_, fun ms => nest_loose hl ..⟩
    cases hl
    simp [Mark.print, Loose.print, Part.print]

/-- After a text that a reader gets through, the groups that it leaves open have the text as theirs. -/
theorem exists_nest_eq {d d' : Nat} {b b' : Bool} {cs : List Char}
    (h : read .evaluator (outside d b) cs = some (outside d' b')) :
    ∀ {inner : List Loose} {outer : List (List Loose)}, LevelsAhead inner outer →
      ∃ inner' outer', LevelsAhead inner' outer' ∧
        printOpen outer' ++ inner'.reverse.flatMap Loose.print =
          printOpen outer ++ inner.reverse.flatMap Loose.print ++ cs ∧
        ∀ ms, nest outer inner (marksOf cs ++ ms) = nest outer' inner' ms := by
  induction cs using marksOf.induct generalizing d b with
  | case1 =>
    intro inner outer hw
    rw [marksOf]
    exact ⟨inner, outer, hw, (List.append_nil _).symm, fun _ => rfl⟩
  | case2 c rest ih =>
    intro inner outer hw
    obtain ⟨⟨d₁, b₁, hm, hleft⟩, -⟩ := read_nextMark h
    obtain ⟨inner₁, outer₁, hw₁, ht₁, hn₁⟩ := exists_nest_mark hm hw
    obtain ⟨inner', outer', hw', ht, hn⟩ := ih hleft hw₁
    refine ⟨inner', outer', hw', ?_, fun ms => ?_⟩
    · rw [ht, ht₁, List.append_assoc _ (Mark.print _), print_nextMark]
    · rw [marksOf, List.cons_append, hn₁, hn]

/-! ## The negation itself -/

/-- A part that ends the operand of a negation: a blank, a connective or a separator. -/
def Part.Ends : Part → Prop
  | .char c => isBlank c
  | .link _ | .stop _ => True
  | _ => False

/-- The text has these parts, and a negation takes just them as its operand, if a part follows that ends it. -/
structure Taken (cs : List Char) (operand : List Part) : Prop where
  marks : ∃ ms, Paired ms (operand.map some) ∧ ∀ more, marksOf (cs ++ more) = ms ++ marksOf more
  solid : ∀ rest, spanChars isBlank (operand ++ rest) = ([], operand ++ rest)
  taken : ∀ {rest : List Part}, (∀ p ∈ rest.head?, p.Ends) → takeOperand (operand ++ rest) = (operand, rest)

/-- The text begins, if at all, with a closing parenthesis or with a part that ends the operand of a negation. -/
def EndsOperand (cs : List Char) : Prop :=
  ∀ m ∈ (marksOf cs).head?, m = .closing ∨ ∃ p : Part, m.loose? = some (some p) ∧ p.Ends

/-- Levels that differ in one negation as long as a part follows that ends its operand. -/
theorem nest_enclosed_of_ends {front : List Char} {inner inner' : List Loose} {outer : List (List Loose)}
    (h : ∀ more, (∀ p ∈ (settle more).head?, p.Ends) →
      PartsEnclosed operand front (settle (inner.reverse ++ more)) (settle (inner'.reverse ++ more)))
    (hw : ∀ group ∈ outer, ∀ l ∈ group, l.Ahead) {ms : List Mark}
    (hm : ∀ m ∈ ms.head?, m = .closing ∨ ∃ p : Part, m.loose? = some (some p) ∧ p.Ends) :
    PartsEnclosed operand (printOpen outer ++ front) (nest outer inner ms) (nest outer inner' ms) := by
  have hend := h [] fun p hp => by cases hp
  rw [List.append_nil, List.append_nil] at hend
  have hpush {p : Part} (hp : p.Ends) (ms : List Mark) :
      PartsEnclosed operand (printOpen outer ++ front) (nest outer (some p :: inner) ms)
        (nest outer (some p :: inner') ms) := by
    refine nest_enclosed ms (.here (fun more => ?_) hw)
    have hmore := h (some p :: more) fun q hq => Option.some_inj.1 hq ▸ hp
    simpa using hmore
  have hclose (closed : Bool) {parent : List Loose} {around : List (List Loose)} (ho : outer = parent :: around)
      (ms : List Mark) : PartsEnclosed operand (printOpen outer ++ front)
        (nest around (some (.group (settle inner.reverse) closed) :: parent) ms)
        (nest around (some (.group (settle inner'.reverse) closed) :: parent) ms) := by
    subst ho
    obtain ⟨hparent, haround⟩ := List.forall_mem_cons.1 hw
    have hs := nest_enclosed ms (.here (levelEnclosed_group hend closed hparent) haround)
    simpa [printOpen] using hs
  cases ms with
  | nil =>
    cases outer with
    | nil =>
      rw [nest, nest]
      exact hend
    | cons parent around =>
      rw [nest, nest]
      exact hclose false rfl []
  | cons m ms =>
    rcases hm m rfl with rfl | ⟨p, hl, hp⟩
    · cases outer with
      | nil =>
        rw [nest, nest]
        exact hpush (p := .stop ')') trivial ms
      | cons parent around =>
        rw [nest, nest]
        exact hclose true rfl ms
    · rw [nest_loose hl, nest_loose hl]
      exact hpush hp ms

theorem settle_map_some (ps : List Part) (ls : List Loose) : settle (ps.map some ++ ls) = ps ++ settle ls := by
  induction ps with
  | nil => rfl
  | cons p ps ih => rw [List.map_cons, List.cons_append, settle, ih, List.cons_append]

section

variable {cs : List Char} (h : Taken cs operand)

include h

/-- The parts of a level, in reverse, after a negation and its operand. -/
theorem Taken.enclosed {inner more : List Loose} (hw : ∀ l ∈ inner, l.Ahead)
    (hm : ∀ p ∈ (settle more).head?, p.Ends) :
    PartsEnclosed operand (inner.reverse.flatMap Loose.print)
      (settle (((operand.map some).reverse ++ (some (.char ' ') :: none :: inner)).reverse ++ more))
      (settle ((some (.group operand true) :: some (.char ' ') :: none :: inner).reverse ++ more)) := by
  have hblank (ps : List Part) : spanChars isBlank (.char ' ' :: ps) =
      (' ' :: (spanChars isBlank ps).1, (spanChars isBlank ps).2) := rfl
  have hbare : settle (none :: some (.char ' ') :: (operand.map some ++ more)) =
      .not [' '] operand :: settle more := by
    simp only [settle, settle_map_some, negateFront, hblank, h.solid, h.taken hm]
  have henclosed : settle (none :: some (.char ' ') :: some (.group operand true) :: more) =
      .not [' '] [.group operand true] :: settle more := rfl
  have hhere : PartsEnclosed operand [] (settle (none :: some (.char ' ') :: (operand.map some ++ more)))
      (settle (none :: some (.char ' ') :: some (.group operand true) :: more)) := by
    rw [hbare, henclosed]
    exact .head (.here [' ']) _
  have hrev : ∀ l ∈ inner.reverse, l.Ahead := fun l hl => hw l (List.mem_reverse.1 hl)
  have hs := settle_enclosed hhere hrev
  simpa using hs

theorem Taken.marksOf_enclosed (more : List Char) : ∃ ms, Paired ms (operand.map some) ∧
    marksOf (cs ++ more) = ms ++ marksOf more ∧
    marksOf ('(' :: (cs ++ ')' :: more)) = .opening :: (ms ++ .closing :: marksOf more) := by
  obtain ⟨ms, hp, hm⟩ := h.marks
  exact ⟨ms, hp, hm more, by rw [marksOf_opening, hm, marksOf_closing]⟩

/-- **The operand that a negation takes is a group with parentheses around it**, and nothing else changes in the
outline. -/
theorem Taken.enclosed_outline {before after : List Char} {e d : Nat} {b : Bool}
    (hread : read .evaluator (outside e false) before = some (outside d b)) (ha : EndsOperand after) :
    PartsEnclosed operand before (outline (before ++ '!' :: ' ' :: (cs ++ after)))
      (outline (before ++ '!' :: ' ' :: '(' :: (cs ++ ')' :: after))) := by
  have hnone : LevelsAhead [] [] := fun l hl => absurd hl List.not_mem_nil
  obtain ⟨inner, outer, hw, ht, hn⟩ := exists_nest_eq hread hnone
  obtain ⟨hi, ho⟩ := List.forall_mem_cons.1 hw.ahead
  obtain ⟨ms, hp, hm, hm'⟩ := h.marksOf_enclosed after
  have hbang (rest : List Char) : outline (before ++ '!' :: ' ' :: rest) =
      nest outer (some (.char ' ') :: none :: inner) (marksOf rest) := by
    have hb : nextMark '!' (' ' :: rest) = (.bang, ' ' :: rest) := rfl
    rw [outline, marksOf_append (by decide) hread, hn, marksOf_of_nextMark hb, marksOf_blank, nest, nest]
  -- from here on the levels differ
  have hbare := hp.nest outer (some (.char ' ') :: none :: inner) (marksOf after)
  have henclosed := hp.nest (( some (.char ' ') :: none :: inner) :: outer) [] (.closing :: marksOf after)
  have hgroup : settle ((operand.map some).reverse ++ []).reverse = operand := by
    have hs := settle_map_some operand []
    rw [List.append_nil, settle, List.append_nil] at hs
    rw [List.append_nil, List.reverse_reverse, hs]
  rw [hbang, hbang, hm, hm', hbare, nest, henclosed, nest, hgroup]
  have hs := nest_enclosed_of_ends (fun more => h.enclosed hi) ho ha
  rwa [ht] at hs

end

end

end FraudScreen.Expr
