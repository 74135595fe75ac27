import FraudScreen.Expr.Outline
import FraudScreen.Proofs.Expr.Reading

/-!
# Outlines

Printing an outline gives the text back: `print_outline`. The outline of a text that stands alone is a
matter of that text, so within parentheses it becomes one group whatever surrounds it:
`marksOf_append` and `Paired.parenthesized`.
-/
namespace FraudScreen.Expr

open Text Reader

/-! ## Printing -/

theorem print_nextMark (c : Char) (rest : List Char) :
    (nextMark c rest).1.print ++ (nextMark c rest).2 = c :: rest := by
  unfold nextMark
  split
  · rename_i h
    simp [Mark.print, spanText_append, h]
  split
  · rename_i h
    simp [Mark.print, h]
  split
  · rename_i h
    simp [Mark.print, h]
  split
  · rename_i h
    obtain ⟨more, rfl⟩ : ∃ more, rest = '&' :: more := List.head?_eq_some_iff.1 h.2
    simp [Mark.print, Connective.symbol, h.1]
  split
  · rename_i h
    obtain ⟨more, rfl⟩ : ∃ more, rest = '|' :: more := List.head?_eq_some_iff.1 h.2
    simp [Mark.print, Connective.symbol, h.1]
  split
  · rfl
  split
  · rename_i h
    simp [Mark.print, h.1]
  · rfl

theorem print_marksOf (cs : List Char) : (marksOf cs).flatMap Mark.print = cs := by
  induction cs using marksOf.induct with
  | case1 => rw [marksOf, List.flatMap_nil]
  | case2 c rest ih => rw [marksOf, List.flatMap_cons, ih, print_nextMark]

theorem printParts_eq (ps : List Part) : printParts ps = ps.flatMap Part.print := by
  induction ps with
  | nil => rfl
  | cons p ps ih => rw [printParts, ih, List.flatMap_cons]

theorem printParts_append (ps qs : List Part) : printParts (ps ++ qs) = printParts ps ++ printParts qs := by
  simp only [printParts_eq, List.flatMap_append]

theorem charOf?_eq_some {p : Char → Bool} {part : Part} {c : Char} :
    part.charOf? p = some c ↔ part = .char c ∧ p c := by
  cases part with
  | char d =>
    simp only [Part.charOf?, Option.ite_none_right_eq_some, Option.some_inj, Part.char.injEq]
    exact ⟨fun ⟨h, e⟩ => ⟨e, e ▸ h⟩, fun ⟨e, h⟩ => ⟨e ▸ h, e⟩⟩
  | _ => simp [Part.charOf?]

theorem spanChars_append (p : Char → Bool) : ∀ parts : List Part,
    (spanChars p parts).1.map .char ++ (spanChars p parts).2 = parts
  | [] => rfl
  | part :: rest => by
    unfold spanChars
    split
    · rename_i c h
      obtain ⟨rfl, -⟩ := charOf?_eq_some.1 h
      simp only [List.map_cons, List.cons_append, spanChars_append p rest]
    · rfl

theorem takeBare_append (parts : List Part) : (takeBare parts).1 ++ (takeBare parts).2 = parts := by
  have h := spanChars_append isOperandPart parts
  unfold takeBare
  generalize spanChars isOperandPart parts = span at h ⊢
  obtain ⟨name, rest⟩ := span
  dsimp only at h ⊢
  split
  · rw [List.append_assoc, ← h]
    rfl
  · exact h

theorem takeOperand_append (parts : List Part) : (takeOperand parts).1 ++ (takeOperand parts).2 = parts := by
  unfold takeOperand
  split
  · rfl
  · rfl
  · rfl
  · rw [List.cons_append, takeBare_append]
  · exact takeBare_append _

theorem print_chars (cs : List Char) : printParts (cs.map .char) = cs := by
  induction cs with
  | nil => rfl
  | cons c cs ih => simp only [List.map_cons, printParts, Part.print, ih, List.cons_append, List.nil_append]

theorem print_negateFront (parts : List Part) : printParts (negateFront parts) = '!' :: printParts parts := by
  have ho := takeOperand_append (spanChars isBlank parts).2
  conv => rhs; rw [← spanChars_append isBlank parts, ← ho, printParts_append, printParts_append, print_chars]
  simp only [negateFront, printParts, Part.print, List.cons_append, List.append_assoc]

/-- The text of a part that may be a bare negation. -/
def Loose.print : Loose → List Char
  | none => ['!']
  | some part => part.print

theorem print_settle : ∀ ls : List Loose, printParts (settle ls) = ls.flatMap Loose.print
  | [] => rfl
  | none :: rest => by
    rw [settle, print_negateFront, print_settle rest, List.flatMap_cons]
    rfl
  | some part :: rest => by
    rw [settle, printParts, print_settle rest, List.flatMap_cons]
    rfl

/-- The text of groups still open, the innermost first, each as its parts so far in reverse. -/
def printOpen : List (List Loose) → List Char
  | [] => []
  | group :: outer => printOpen outer ++ group.reverse.flatMap Loose.print ++ ['(']

theorem print_nest (outer : List (List Loose)) (inner : List Loose) (marks : List Mark) :
    printParts (nest outer inner marks) =
      printOpen outer ++ inner.reverse.flatMap Loose.print ++ marks.flatMap Mark.print := by
  fun_induction nest outer inner marks <;>
    simp_all [print_settle, printOpen, Loose.print, Part.print, Mark.print]

/-- **Printing an outline gives the text back.** -/
theorem print_outline (cs : List Char) : printParts (outline cs) = cs := by
  rw [outline, print_nest, print_marksOf]
  rfl

/-! ## Whole parts -/

mutual

/-- The part is read by itself: its literals and groups are closed, and the other characters are neither
quotes nor parentheses. -/
def Part.Whole : Part → Prop
  | .char c => c ∉ ['"', '(', ')']
  | .text literal => ∃ body, literal = '"' :: body ∧ Closes body
  | .link _ => True
  | .stop c => c = ',' ∨ c = ';'
  | .group body closed => closed = true ∧ WholeParts body
  | .not blanks operand => (∀ c ∈ blanks, isBlank c) ∧ WholeParts operand

def WholeParts : List Part → Prop
  | [] => True
  | part :: rest => part.Whole ∧ WholeParts rest

end

theorem wholeParts_iff {ps : List Part} : WholeParts ps ↔ ∀ p ∈ ps, p.Whole := by
  induction ps with
  | nil => simp [WholeParts]
  | cons p ps ih => simp [WholeParts, ih]

theorem wholeParts_append {ps qs : List Part} : WholeParts (ps ++ qs) ↔ WholeParts ps ∧ WholeParts qs := by
  simp only [wholeParts_iff, List.forall_mem_append]

theorem mem_spanChars {p : Char → Bool} {c : Char} : ∀ {parts : List Part}, c ∈ (spanChars p parts).1 → p c
  | [], h => by cases h
  | part :: rest, h => by
    unfold spanChars at h
    split at h
    · rename_i a ha
      rcases List.mem_cons.1 h with rfl | h
      · exact (charOf?_eq_some.1 ha).2
      · exact mem_spanChars h
    · cases h

theorem whole_negateFront {parts : List Part} (h : WholeParts parts) : WholeParts (negateFront parts) := by
  rw [← spanChars_append isBlank parts, ← takeOperand_append (spanChars isBlank parts).2, wholeParts_append,
    wholeParts_append] at h
  exact ⟨⟨fun _ => mem_spanChars, h.2.1⟩, h.2.2⟩

def Loose.Whole : Loose → Prop
  | none => True
  | some part => part.Whole

theorem whole_settle : ∀ {ls : List Loose}, (∀ l ∈ ls, l.Whole) → WholeParts (settle ls)
  | [], _ => trivial
  | none :: _, h => whole_negateFront (whole_settle fun l hl => h l (List.mem_cons_of_mem _ hl))
  | some _ :: _, h =>
    ⟨h _ (List.mem_cons_self ..), whole_settle fun l hl => h l (List.mem_cons_of_mem _ hl)⟩

/-! ## Paired marks -/

/-- What a mark other than a parenthesis leaves behind. -/
def Mark.loose? : Mark → Option Loose
  | .char c => some (some (.char c))
  | .text literal => some (some (.text literal))
  | .link op => some (some (.link op))
  | .stop c => some (some (.stop c))
  | .bang => some none
  | .opening | .closing => none

theorem nest_loose {m : Mark} {l : Loose} (h : m.loose? = some l) (outer : List (List Loose))
    (inner : List Loose) (rest : List Mark) : nest outer inner (m :: rest) = nest outer (l :: inner) rest := by
  cases m <;> simp only [Mark.loose?, Option.some.injEq, reduceCtorEq] at h
  all_goals subst h
  all_goals rw [nest]

/-- Marks whose parentheses are paired, with the whole parts they leave behind. -/
inductive Paired : List Mark → List Loose → Prop where
  | nil : Paired [] []
  | mark {m : Mark} {l : Loose} {ms : List Mark} {ls : List Loose} (h : m.loose? = some l) (_ : l.Whole)
      (_ : Paired ms ls) : Paired (m :: ms) (l :: ls)
  | group {is ms : List Mark} {li ls : List Loose} (_ : Paired is li) (_ : Paired ms ls) :
      Paired (.opening :: (is ++ .closing :: ms)) (some (.group (settle li) true) :: ls)

theorem Paired.whole {ms : List Mark} {ls : List Loose} (h : Paired ms ls) : ∀ l ∈ ls, l.Whole := by
  induction h with
  | nil => exact fun l hl => absurd hl List.not_mem_nil
  | mark _ hw _ ih => exact List.forall_mem_cons.2 ⟨hw, ih⟩
  | group _ _ ih ih' => exact List.forall_mem_cons.2 ⟨⟨rfl, whole_settle ih⟩, ih'⟩

/-- Paired marks are nested by themselves, whatever groups are open around them. -/
theorem Paired.nest {ms : List Mark} {ls : List Loose} (h : Paired ms ls) :
    ∀ (outer : List (List Loose)) (inner : List Loose) (rest : List Mark),
      nest outer inner (ms ++ rest) = nest outer (ls.reverse ++ inner) rest := by
  induction h with
  | nil => exact fun _ _ _ => rfl
  | mark hm _ _ ih =>
    intro outer inner rest
    rw [List.cons_append, nest_loose hm, ih, List.reverse_cons, List.append_assoc]
    rfl
  | group _ _ ih ih' =>
    intro outer inner rest
    rw [List.cons_append, List.append_assoc, List.cons_append, FraudScreen.Expr.nest, ih, List.append_nil,
      FraudScreen.Expr.nest, List.reverse_reverse, ih', List.reverse_cons, List.append_assoc]
    rfl

theorem Paired.settle_eq {ms : List Mark} {ls : List Loose} (h : Paired ms ls) :
    FraudScreen.Expr.nest [] [] ms = settle ls := by
  have hn := h.nest [] [] []
  rw [List.append_nil, List.append_nil] at hn
  rw [hn, FraudScreen.Expr.nest, List.reverse_reverse]

/-- Marks in front of the closing parentheses of `d` open groups, paired but for these. -/
def PairedWithin : Nat → List Mark → Prop
  | 0, ms => ∃ ls, Paired ms ls
  | d + 1, ms => ∃ is li more, ms = is ++ .closing :: more ∧ Paired is li ∧ PairedWithin d more

theorem PairedWithin.mark {m : Mark} {l : Loose} (h : m.loose? = some l) (hw : l.Whole) :
    ∀ {d : Nat} {ms : List Mark}, PairedWithin d ms → PairedWithin d (m :: ms)
  | 0, _, ⟨ls, hp⟩ => ⟨l :: ls, hp.mark h hw⟩
  | _ + 1, _, ⟨is, li, more, he, hi, hm⟩ => ⟨m :: is, l :: li, more, by rw [he]; rfl, hi.mark h hw, hm⟩

theorem PairedWithin.opening : ∀ {d : Nat} {ms : List Mark}, PairedWithin (d + 1) ms →
    PairedWithin d (.opening :: ms)
  | 0, _, ⟨_, _, _, rfl, hi, _, hm⟩ => ⟨_, .group hi hm⟩
  | _ + 1, _, ⟨is, _, _, rfl, hi, is', _, more, rfl, hi', hm⟩ =>
    ⟨.opening :: (is ++ .closing :: is'), _, more, by simp, .group hi hi', hm⟩

theorem PairedWithin.closing {d : Nat} {ms : List Mark} (h : PairedWithin d ms) :
    PairedWithin (d + 1) (.closing :: ms) :=
  ⟨[], [], ms, rfl, .nil, h⟩

/-! ## Texts that stand alone -/

/-- How a mark changes the number of open parentheses. -/
def Mark.leads (d d' : Nat) : Mark → Prop
  | .opening => d' = d + 1
  | .closing => d = d' + 1
  | m => d' = d ∧ ∃ l, m.loose? = some l ∧ l.Whole

/-- A character that begins no literal and is no parenthesis is a mark by itself, or half of a connective. -/
theorem nextMark_cases {c : Char} (rest : List Char) (hq : c ≠ '"') (ho : c ≠ '(') (hc : c ≠ ')') :
    (∃ l, (nextMark c rest).1.loose? = some l ∧ l.Whole) ∧ ((nextMark c rest).2 = rest ∨
      ∃ more, rest = c :: more ∧ (nextMark c rest).2 = more ∧ isOrdinary c) := by
  unfold nextMark
  rw [if_neg hq, if_neg ho, if_neg hc]
  split
  · rename_i h
    obtain ⟨more, rfl⟩ : ∃ more, rest = '&' :: more := List.head?_eq_some_iff.1 h.2
    exact ⟨⟨_, rfl, trivial⟩, .inr ⟨more, by rw [h.1], rfl, by rw [h.1]; rfl⟩⟩
  split
  · rename_i h
    obtain ⟨more, rfl⟩ : ∃ more, rest = '|' :: more := List.head?_eq_some_iff.1 h.2
    exact ⟨⟨_, rfl, trivial⟩, .inr ⟨more, by rw [h.1], rfl, by rw [h.1]; rfl⟩⟩
  split
  · rename_i h
    exact ⟨⟨_, rfl, h⟩, .inl rfl⟩
  split
  · exact ⟨⟨_, rfl, trivial⟩, .inl rfl⟩
  · exact ⟨⟨_, rfl, by simp [Loose.Whole, Part.Whole, hq, ho, hc]⟩, .inl rfl⟩

/-- The character is no second half of a connective or of `!=`. -/
def BeginsMark (m : Char) : Prop := m ∉ ['&', '|', '=']

instance (m : Char) : Decidable (BeginsMark m) := inferInstanceAs (Decidable (m ∉ _))

theorem nextMark_append {m : Char} (hm : BeginsMark m) (rest more : List Char) {c : Char} (hq : c ≠ '"') :
    nextMark c (rest ++ m :: more) = ((nextMark c rest).1, (nextMark c rest).2 ++ m :: more) := by
  have hand : '&' ≠ m := fun h => hm (by simp [← h])
  have hor : '|' ≠ m := fun h => hm (by simp [← h])
  have hequals : '=' ≠ m := fun h => hm (by simp [← h])
  unfold nextMark
  simp only [if_neg hq, ne_eq, head?_divided_eq_some rest more hand, head?_divided_eq_some rest more hor,
    head?_divided_eq_some rest more hequals]
  repeat' split
  · rfl
  · rfl
  · rename_i h
    obtain ⟨tail, rfl⟩ : ∃ tail, rest = '&' :: tail := List.head?_eq_some_iff.1 h.2
    rfl
  · rename_i h
    obtain ⟨tail, rfl⟩ : ∃ tail, rest = '|' :: tail := List.head?_eq_some_iff.1 h.2
    rfl
  all_goals rfl

theorem leads_of_loose {m : Mark} (h : ∃ l, m.loose? = some l ∧ l.Whole) (d : Nat) : m.leads d d := by
  cases m with
  | opening | closing =>
    obtain ⟨_, h, -⟩ := h
    cases h
  | char | text | link | stop | bang => exact ⟨rfl, h⟩

/-- A mark takes a reader that gets through the text from outside to outside, and the same mark is made in
front of another one. -/
theorem read_nextMark {d d' : Nat} {b b' : Bool} {c : Char} {rest : List Char}
    (h : read .evaluator (outside d b) (c :: rest) = some (outside d' b')) :
    (∃ d₁ b₁, (nextMark c rest).1.leads d d₁ ∧
      read .evaluator (outside d₁ b₁) (nextMark c rest).2 = some (outside d' b')) ∧
    ∀ {m : Char}, BeginsMark m → ∀ more, nextMark c (rest ++ m :: more) =
      ((nextMark c rest).1, (nextMark c rest).2 ++ m :: more) := by
  by_cases hq : c = '"'
  · subst hq
    have hi : step .evaluator (outside d b) '"' = some (inside d '"') := by simp [step, Language.isQuote]
    rw [read_cons, hi, Option.bind_some] at h
    obtain ⟨h1, h2⟩ := read_spanText h
    exact ⟨⟨d, false, ⟨rfl, _, rfl, _, rfl, h1⟩, h2⟩, fun _ more => by simp [nextMark, spanText_closing h1]⟩
  refine ⟨?_, fun hm more => nextMark_append hm rest more hq⟩
  have hl : Language.isQuote .evaluator c = false := by simp [Language.isQuote, hq]
  rw [read_cons] at h
  obtain ⟨r, hr, hrest⟩ := Option.bind_eq_some_iff.1 h
  obtain ⟨d₁, b₁, rfl⟩ := step_outside hl hr
  simp only [step, hl, Bool.false_eq_true, if_false, Option.ite_none_left_eq_some] at hr
  by_cases ho : c = '('
  · subst ho
    simp only [if_true, Option.some_inj, outside.injEq] at hr
    exact ⟨d₁, b₁, hr.2.1.symm, hrest⟩
  by_cases hc : c = ')'
  · subst hc
    simp only [ho, if_false, if_true, Option.ite_none_left_eq_some, Option.some_inj, outside.injEq] at hr
    exact ⟨d₁, b₁, by change d = d₁ + 1; omega, hrest⟩
  simp only [ho, hc, if_false, Option.some_inj, outside.injEq] at hr
  obtain ⟨hm, he | ⟨more, rfl, he, hord⟩⟩ := nextMark_cases rest hq ho hc
  · exact ⟨d, b₁, leads_of_loose hm d, by rw [he, hr.2.1, hrest]⟩
  · rw [read_cons, step_ordinary .evaluator d₁ b₁ hord, Option.bind_some] at hrest
    exact ⟨d, false, leads_of_loose hm d, by rw [he, hr.2.1, hrest]⟩

/-- The marks of a text are its own in front of another mark. -/
theorem marksOf_append {m : Char} (hm : BeginsMark m) {d d' : Nat} {b b' : Bool} {cs : List Char}
    (h : read .evaluator (outside d b) cs = some (outside d' b')) (more : List Char) :
    marksOf (cs ++ m :: more) = marksOf cs ++ marksOf (m :: more) := by
  induction cs using marksOf.induct generalizing d b with
  | case1 =>
    rw [List.nil_append, marksOf.eq_1]
    rfl
  | case2 c rest ih =>
    obtain ⟨⟨d₁, b₁, -, h2⟩, h3⟩ := read_nextMark h
    rw [List.cons_append, marksOf, h3 hm, marksOf.eq_2 c rest, ih h2]
    rfl

theorem marksOf_of_nextMark {c : Char} {rest left : List Char} {m : Mark} (h : nextMark c rest = (m, left)) :
    marksOf (c :: rest) = m :: marksOf left := by
  rw [marksOf, h]

theorem marksOf_blank (more : List Char) : marksOf (' ' :: more) = .char ' ' :: marksOf more :=
  have h : nextMark ' ' more = (.char ' ', more) := rfl
  marksOf_of_nextMark h

theorem marksOf_opening (more : List Char) : marksOf ('(' :: more) = .opening :: marksOf more :=
  have h : nextMark '(' more = (.opening, more) := rfl
  marksOf_of_nextMark h

theorem marksOf_closing (more : List Char) : marksOf (')' :: more) = .closing :: marksOf more :=
  have h : nextMark ')' more = (.closing, more) := rfl
  marksOf_of_nextMark h

theorem pairedWithin_marksOf {d : Nat} {b b' : Bool} {cs : List Char}
    (h : read .evaluator (outside d b) cs = some (outside 0 b')) : PairedWithin d (marksOf cs) := by
  induction cs using marksOf.induct generalizing d b with
  | case1 =>
    obtain ⟨rfl, -⟩ : d = 0 ∧ b = b' := by simpa using h
    rw [marksOf]
    exact ⟨[], .nil⟩
  | case2 c rest ih =>
    obtain ⟨⟨d₁, b₁, h1, h2⟩, -⟩ := read_nextMark h
    have ih := ih h2
    rw [marksOf]
    generalize (nextMark c rest).1 = m at h1 ⊢
    cases m with
    | opening => exact .opening (h1 ▸ ih)
    | closing => exact h1 ▸ .closing ih
    | char | text | link | stop | bang =>
      obtain ⟨rfl, l, hl, hw⟩ := h1
      exact ih.mark hl hw

/-- **A text that stands alone has the outline of its own** wherever it stands. -/
theorem paired_marksOf {cs : List Char} (h : standsAlone .evaluator cs) :
    ∃ ls, Paired (marksOf cs) ls ∧ outline cs = settle ls := by
  obtain ⟨b, hb⟩ := standsAlone_iff.1 h
  obtain ⟨ls, hp⟩ := pairedWithin_marksOf hb
  exact ⟨ls, hp, hp.settle_eq⟩

theorem whole_outline {cs : List Char} (h : standsAlone .evaluator cs) : WholeParts (outline cs) := by
  obtain ⟨ls, hp, ho⟩ := paired_marksOf h
  exact ho ▸ whole_settle hp.whole

/-- In parentheses such a text is a group. -/
theorem Paired.parenthesized {cs : List Char} (h : standsAlone .evaluator cs) {ms : List Mark} {ls : List Loose}
    (hm : Paired ms ls) :
    Paired (.opening :: (marksOf cs ++ .closing :: ms)) (some (.group (outline cs) true) :: ls) := by
  obtain ⟨li, hp, ho⟩ := paired_marksOf h
  exact ho ▸ hp.group hm

end FraudScreen.Expr
