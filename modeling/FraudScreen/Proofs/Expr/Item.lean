import FraudScreen.Proofs.Expr.Truthiness

/-!
# Literals and parentheses of a text

A text is read as its literals and the characters outside of them. Texts with terminated literals are read one after
another, `itemsOf_append`, and the blanks around a text are outside of its literals, `Rises.trim`. The marks of an
outline are found at the same places: `exists_nextMark`.
-/
namespace FraudScreen.Expr

open Text Reader

/-! ## Items -/

/-- A literal, or a character outside of literals. -/
inductive Item where
  | char (c : Char)
  | literal (cs : List Char)
deriving DecidableEq, Repr

/-- The literals of a text and the characters outside of them. -/
def itemsOf : List Char → List Item
  | [] => []
  | c :: rest =>
    if c = '"' then
      have := length_spanText_le rest
      .literal ('"' :: (spanText rest).1) :: itemsOf (spanText rest).2
    else .char c :: itemsOf rest
termination_by cs => cs.length

def Item.literal? : Item → Option (List Char)
  | char _ => none
  | literal cs => some cs

/-- The literals of a text, with their quotes. -/
def literals (cs : List Char) : List (List Char) := (itemsOf cs).filterMap Item.literal?

/-- Every literal has its closing quote. -/
def Terminated (cs : List Char) : Prop := ∀ l ∈ literals cs, ∃ body, l = '"' :: body ∧ Closes body

/-- How many parentheses are open after an item. None is closed that was not opened. -/
def Item.depth : Nat → Item → Option Nat
  | d, .char '(' => some (d + 1)
  | 0, .char ')' => none
  | d + 1, .char ')' => some d
  | d, _ => some d

/-- How many parentheses are open after a text. -/
def depthAfter (d : Nat) (items : List Item) : Option Nat := items.foldlM Item.depth d

/-- The parentheses outside of literals are balanced. -/
def Balanced (cs : List Char) : Prop := depthAfter 0 (itemsOf cs) = some 0

/-- The text has a connective outside of literals: `&&`, `||`, or a `!` that does not begin `!=`. -/
def HasConnective (cs : List Char) : Prop :=
  (∃ op : Connective, op.symbol.map Item.char <:+: itemsOf cs) ∨
    ∃ rest, .char '!' :: rest <:+ itemsOf cs ∧ rest.head? ≠ some (.char '=')

theorem itemsOf_quote (rest : List Char) :
    itemsOf ('"' :: rest) = .literal ('"' :: (spanText rest).1) :: itemsOf (spanText rest).2 := by
  rw [itemsOf, if_pos rfl]

theorem itemsOf_cons {c : Char} (hc : c ≠ '"') (rest : List Char) : itemsOf (c :: rest) = .char c :: itemsOf rest := by
  rw [itemsOf, if_neg hc]

theorem itemsOf_chars {cs : List Char} (h : '"' ∉ cs) (more : List Char) :
    itemsOf (cs ++ more) = cs.map .char ++ itemsOf more := by
  induction cs with
  | nil => rfl
  | cons c cs ih =>
    obtain ⟨hc, hcs⟩ := not_or.1 (List.mem_cons.not.1 h)
    rw [List.cons_append, itemsOf_cons (Ne.symm hc), ih hcs]
    rfl

theorem depthAfter_append (d : Nat) (as bs : List Item) :
    depthAfter d (as ++ bs) = (depthAfter d as).bind (depthAfter · bs) := List.foldlM_append

theorem literals_quote (rest : List Char) :
    literals ('"' :: rest) = ('"' :: (spanText rest).1) :: literals (spanText rest).2 := by
  rw [literals, itemsOf_quote]
  rfl

theorem literals_cons {c : Char} (hc : c ≠ '"') (rest : List Char) : literals (c :: rest) = literals rest := by
  rw [literals, itemsOf_cons hc]
  rfl

theorem Terminated.of_literals {cs : List Char} (h : literals cs = []) : Terminated cs := by
  rw [Terminated, h]
  exact List.forall_mem_nil _

/-- What follows a text with terminated literals is read by itself. -/
theorem itemsOf_append {as : List Char} (h : Terminated as) (bs : List Char) :
    itemsOf (as ++ bs) = itemsOf as ++ itemsOf bs := by
  induction as using itemsOf.induct with
  | case1 => rw [itemsOf]; rfl
  | case2 rest _ ih =>
    rw [Terminated, literals_quote, List.forall_mem_cons] at h
    obtain ⟨⟨body, hb, hc⟩, h⟩ := h
    cases hb
    rw [List.cons_append, itemsOf_quote, itemsOf_quote, spanText_closing hc, ih h]
    rfl
  | case3 c rest hc ih =>
    rw [Terminated, literals_cons hc] at h
    rw [List.cons_append, itemsOf_cons hc, itemsOf_cons hc, ih h]
    rfl

theorem literals_append {as : List Char} (h : Terminated as) (bs : List Char) :
    literals (as ++ bs) = literals as ++ literals bs := by
  rw [literals, itemsOf_append h, List.filterMap_append]
  rfl

theorem Terminated.append {as bs : List Char} (ha : Terminated as) (hb : Terminated bs) : Terminated (as ++ bs) := by
  rw [Terminated, literals_append ha, List.forall_mem_append]
  exact ⟨ha, hb⟩

/-- A literal that is terminated in front of blanks is terminated without them. -/
theorem closes_spanText {rest post : List Char} (hpost : ∀ c ∈ post, isBlank c)
    (h : Closes (spanText (rest ++ post)).1) : Closes (spanText rest).1 := by
  have ha := spanText_append (rest ++ post)
  generalize (spanText (rest ++ post)).1 = body at h ha
  rcases List.append_eq_append_iff.1 ha with ⟨more, rfl, -⟩ | ⟨blanks, rfl, hb⟩
  · rwa [h.span]
  · have hblank : ∀ c ∈ blanks, isBlank c := fun c hc => hpost c (hb ▸ List.mem_append_left _ hc)
    have hr := h.read .evaluator 0
    rw [read_append] at hr
    obtain ⟨r, hrest, hr⟩ := Option.bind_eq_some_iff.1 hr
    obtain ⟨b, rfl⟩ := outside_of_read_blank (onlyDouble_read (r := inside 0 '"') rfl hrest) hblank hr
    exact (read_spanText hrest).1

theorem not_quote_of_blank {cs : List Char} (h : ∀ c ∈ cs, isBlank c) : '"' ∉ cs :=
  fun hq => absurd (h _ hq) (by decide)

/-- Blanks at the end are outside of literals if the literals are terminated. -/
theorem itemsOf_append_blank {cs post : List Char} (hpost : ∀ c ∈ post, isBlank c) (h : Terminated (cs ++ post)) :
    Terminated cs ∧ itemsOf (cs ++ post) = itemsOf cs ++ post.map .char := by
  suffices ht : Terminated cs by
    have hp := itemsOf_chars (not_quote_of_blank hpost) []
    rw [List.append_nil, itemsOf, List.append_nil] at hp
    exact ⟨ht, by rw [itemsOf_append ht, hp]⟩
  induction cs using itemsOf.induct with
  | case1 => exact .of_literals (by rw [literals, itemsOf]; rfl)
  | case2 rest _ ih =>
    rw [List.cons_append, Terminated, literals_quote, List.forall_mem_cons] at h
    obtain ⟨⟨body, hb, hc⟩, h⟩ := h
    cases hb
    have hclosed := closes_spanText hpost hc
    rw [spanText_closing hclosed] at h
    rw [Terminated, literals_quote, List.forall_mem_cons]
    exact ⟨⟨_, rfl, hclosed⟩, ih h⟩
  | case3 c rest hc ih =>
    rw [List.cons_append, Terminated, literals_cons hc] at h
    rw [Terminated, literals_cons hc]
    exact ih h

/-! ## Texts that close what they open -/

/-- The characters that are neither quotes nor parentheses. -/
def IsPlain (cs : List Char) : Prop := ∀ c ∈ cs, c ∉ ['"', '(', ')']

instance (cs : List Char) : Decidable (IsPlain cs) := List.decidableBAll _ cs

theorem depth_of_plain {c : Char} (h : c ∉ ['"', '(', ')']) (d : Nat) : Item.depth d (.char c) = some d := by
  simp only [List.mem_cons, List.not_mem_nil, or_false, not_or] at h
  cases d <;> simp [Item.depth, h]

theorem depthAfter_plain {cs : List Char} (h : IsPlain cs) (d : Nat) : depthAfter d (cs.map .char) = some d := by
  induction cs with
  | nil => rfl
  | cons c cs ih =>
    obtain ⟨hc, hcs⟩ := List.forall_mem_cons.1 h
    rw [List.map_cons, depthAfter, List.foldlM_cons, depth_of_plain hc]
    exact ih hcs

theorem isPlain_of_blank {cs : List Char} (h : ∀ c ∈ cs, isBlank c) : IsPlain cs := by
  intro c hc hm
  have hb := h c hc
  simp only [List.mem_cons, List.not_mem_nil, or_false] at hm
  rcases hm with rfl | rfl | rfl <;> exact absurd hb (by decide)

theorem itemsOf_plain {cs : List Char} (h : IsPlain cs) : itemsOf cs = cs.map .char := by
  have hi := itemsOf_chars (fun hq => h _ hq (by decide)) []
  rwa [List.append_nil, itemsOf, List.append_nil] at hi

theorem literals_chars (cs : List Char) : (cs.map Item.char).filterMap Item.literal? = [] := by
  induction cs with
  | nil => rfl
  | cons c cs ih => exact ih

theorem literals_plain {cs : List Char} (h : IsPlain cs) : literals cs = [] := by
  rw [literals, itemsOf_plain h, literals_chars]

theorem literals_parenthesized {as : List Char} (h : Terminated as) :
    literals ('(' :: (as ++ [')'])) = literals as := by
  rw [literals_cons (by decide), literals_append h, literals_cons (by decide), literals, literals, itemsOf]
  exact List.append_nil _

theorem literals_callText {as : List Char} (h : Terminated as) : literals (callText as) = literals as := by
  have hp : IsPlain truthyName.toList := by decide
  rw [callText, literals_append (.of_literals (literals_plain hp)), literals_plain hp, literals_parenthesized h,
    List.nil_append]

/-- The literals are terminated, and of the parentheses that the text opens it leaves `n` open. It closes no others. -/
structure Rises (n : Nat) (cs : List Char) : Prop where
  terminated : Terminated cs
  depth : ∀ d, depthAfter d (itemsOf cs) = some (d + n)

namespace Rises

variable {m n : Nat} {as bs cs : List Char}

theorem append (ha : Rises m as) (hb : Rises n bs) : Rises (m + n) (as ++ bs) where
  terminated := ha.terminated.append hb.terminated
  depth d := by
    rw [itemsOf_append ha.terminated, depthAfter_append, ha.depth, Option.bind_some, hb.depth, Nat.add_assoc]

theorem plain (h : IsPlain cs) : Rises 0 cs where
  terminated := .of_literals (literals_plain h)
  depth d := by rw [itemsOf_plain h, depthAfter_plain h, Nat.add_zero]

theorem literal {body : List Char} (h : Closes body) : Rises 0 ('"' :: body) := by
  have hs : spanText body = (body, []) := by simpa using h.span []
  constructor
  · rw [Terminated, literals_quote, hs, literals, itemsOf]
    exact List.forall_mem_singleton.2 ⟨body, rfl, h⟩
  · intro d
    rw [itemsOf_quote, hs, itemsOf, Nat.add_zero]
    cases d <;> rfl

theorem terminated_parenthesis {c : Char} (hc : c ≠ '"') : Terminated [c] :=
  .of_literals (by rw [literals_cons hc, literals, itemsOf]; rfl)

theorem opening : Rises 1 ['('] where
  terminated := terminated_parenthesis (by decide)
  depth d := by
    rw [itemsOf_cons (by decide), itemsOf]
    cases d <;> rfl

theorem parenthesized (h : Rises n as) : Rises n ('(' :: (as ++ [')'])) := by
  have ho := opening.append h
  constructor
  · exact ho.terminated.append (terminated_parenthesis (by decide))
  · intro d
    have hd : d + (1 + n) = d + n + 1 := by omega
    rw [← List.singleton_append, ← List.append_assoc, itemsOf_append ho.terminated, depthAfter_append, ho.depth,
      Option.bind_some, itemsOf_cons (by decide), itemsOf, hd]
    rfl

theorem call (h : Rises n as) : Rises n (callText as) := by
  have hp : IsPlain truthyName.toList := by decide
  rw [← Nat.zero_add n]
  exact (plain hp).append h.parenthesized

/-- The blanks around a text are outside of its literals. -/
theorem trim {pre body post : List Char} (hpre : ∀ c ∈ pre, isBlank c) (hpost : ∀ c ∈ post, isBlank c)
    (h : Rises n (pre ++ (body ++ post))) : Rises n body ∧ literals (pre ++ (body ++ post)) = literals body := by
  have hp := plain (isPlain_of_blank hpre)
  have ht : Terminated (body ++ post) := by
    have := h.terminated
    rwa [Terminated, literals_append hp.terminated, literals_plain (isPlain_of_blank hpre), List.nil_append] at this
  obtain ⟨hb, hi⟩ := itemsOf_append_blank hpost ht
  refine ⟨⟨hb, fun d => ?_⟩, ?_⟩
  · have hd := h.depth d
    rw [itemsOf_append hp.terminated, depthAfter_append, hp.depth, Option.bind_some, Nat.add_zero, hi,
      depthAfter_append] at hd
    obtain ⟨e, he, hd⟩ := Option.bind_eq_some_iff.1 hd
    rw [depthAfter_plain (isPlain_of_blank hpost)] at hd
    rw [he, hd]
  · rw [literals_append hp.terminated, literals_plain (isPlain_of_blank hpre), List.nil_append, literals, hi,
      List.filterMap_append, literals_chars, List.append_nil]
    rfl

end Rises

/-! ## The marks of a text -/

/-- The marks of a text with terminated literals, parentheses aside. -/
def Mark.IsWhole (m : Mark) : Prop := ∃ l, m.loose? = some l ∧ l.Whole

theorem Mark.IsWhole.rises {m : Mark} (h : m.IsWhole) : Rises 0 m.print := by
  obtain ⟨l, hl, hw⟩ := h
  cases m with
  | char c =>
    cases hl
    exact .plain (List.forall_mem_singleton.2 hw)
  | text literal =>
    cases hl
    obtain ⟨body, rfl, hb⟩ := hw
    exact .literal hb
  | link op => exact .plain (by cases op <;> decide)
  | stop c =>
    cases hl
    rcases hw with rfl | rfl <;> exact .plain (by decide)
  | bang => exact .plain (by decide)
  | opening | closing => cases hl

/-- After a mark the items go on with those of the rest. -/
theorem exists_itemsOf_nextMark (c : Char) (rest : List Char) :
    ∃ first, itemsOf (c :: rest) = first ++ itemsOf (nextMark c rest).2 := by
  by_cases hq : c = '"'
  · subst hq
    exact ⟨[_], itemsOf_quote rest⟩
  rw [itemsOf_cons hq]
  by_cases ho : c = '('
  · subst ho
    exact ⟨[_], rfl⟩
  by_cases hc : c = ')'
  · subst hc
    exact ⟨[_], rfl⟩
  obtain ⟨-, he | ⟨more, rfl, he, -⟩⟩ := nextMark_cases rest hq ho hc
  · exact ⟨[_], by rw [he]; rfl⟩
  · exact ⟨[_, _], by rw [he, itemsOf_cons hq]; rfl⟩

/-- Every mark is the next one at some place outside of literals. -/
theorem exists_nextMark {m : Mark} {cs : List Char} (hm : m ∈ marksOf cs) :
    ∃ before c rest, itemsOf cs = before ++ itemsOf (c :: rest) ∧ m = (nextMark c rest).1 := by
  induction cs using marksOf.induct with
  | case1 =>
    rw [marksOf] at hm
    cases hm
  | case2 c rest ih =>
    rw [marksOf] at hm
    rcases List.mem_cons.1 hm with rfl | hm
    · exact ⟨[], c, rest, rfl, rfl⟩
    · obtain ⟨before, a, more, hi, ha⟩ := ih hm
      obtain ⟨first, hf⟩ := exists_itemsOf_nextMark c rest
      exact ⟨first ++ before, a, more, by rw [hf, hi, List.append_assoc], ha⟩

theorem isWhole_of_terminated {cs : List Char} (h : Terminated cs) {m : Mark} (hm : m ∈ marksOf cs) :
    m = .opening ∨ m = .closing ∨ m.IsWhole := by
  obtain ⟨before, c, rest, hi, rfl⟩ := exists_nextMark hm
  by_cases hq : c = '"'
  · subst hq
    have hl : '"' :: (spanText rest).1 ∈ literals cs := by
      rw [literals, hi, itemsOf_quote]
      exact List.mem_filterMap.2 ⟨.literal _, by simp, rfl⟩
    exact .inr (.inr ⟨_, rfl, h _ hl⟩)
  by_cases ho : c = '('
  · subst ho
    exact .inl rfl
  by_cases hc : c = ')'
  · subst hc
    exact .inr (.inl rfl)
  · exact .inr (.inr (nextMark_cases rest hq ho hc).1)

theorem nextMark_eq_link {c : Char} {rest : List Char} {op : Connective} (h : (nextMark c rest).1 = .link op) :
    ∃ more, c :: rest = op.symbol ++ more := by
  unfold nextMark at h
  repeat' split at h
  all_goals cases h
  all_goals
    rename_i hc
    obtain ⟨rfl, hr⟩ := hc
    obtain ⟨more, rfl⟩ := List.head?_eq_some_iff.1 hr
    exact ⟨more, rfl⟩

theorem nextMark_eq_bang {c : Char} {rest : List Char} (h : (nextMark c rest).1 = .bang) :
    c = '!' ∧ rest.head? ≠ some '=' := by
  unfold nextMark at h
  repeat' split at h
  all_goals cases h
  assumption

theorem head?_itemsOf {c : Char} {cs : List Char} (h : (itemsOf cs).head? = some (.char c)) : cs.head? = some c := by
  cases cs with
  | nil => rw [itemsOf] at h; cases h
  | cons a cs =>
    rw [itemsOf] at h
    split at h
    · cases h
    · simpa using h

/-- Marks of connectives are connectives outside of literals. -/
theorem ne_connective {cs : List Char} (h : ¬HasConnective cs) {m : Mark} (hm : m ∈ marksOf cs) :
    m ≠ .bang ∧ ∀ op, m ≠ .link op := by
  obtain ⟨before, c, rest, hi, rfl⟩ := exists_nextMark hm
  refine ⟨fun hb => h (.inr ?_), fun op hop => h (.inl ⟨op, ?_⟩)⟩
  · obtain ⟨rfl, hr⟩ := nextMark_eq_bang hb
    exact ⟨itemsOf rest, ⟨before, by rw [hi, itemsOf_cons (by decide)]⟩, fun he => hr (head?_itemsOf he)⟩
  · obtain ⟨more, hs⟩ := nextMark_eq_link hop
    rw [hi, hs, itemsOf_chars (by cases op <;> decide)]
    exact ⟨before, itemsOf more, List.append_assoc ..⟩

end FraudScreen.Expr
