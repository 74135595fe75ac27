import FraudScreen.Expr.Truthiness
import FraudScreen.Proofs.Expr.Outline

/-!
# Wrapped operands

A call of `truthy` is put around an operand, and the blanks around the operand stay where they are:
`wrapOperand_eq`. What is rewritten from a text that stands alone stands alone: `standsAlone_withTruthiness`.
-/
namespace FraudScreen.Expr

open Text Reader

/-! ## Texts within a text -/

/-- The text is read from outside of literals to outside, back to the same depth. `slash` says whether a
slash may stand in front of it, `slash'` whether it may leave one behind. -/
def Reads (slash : Bool) (cs : List Char) (slash' : Bool) : Prop :=
  ∀ (d : Nat) (b : Bool), (b → slash) →
    ∃ b' : Bool, (b' → slash') ∧ read .evaluator (outside d b) cs = some (outside d b')

theorem Reads.nil (s : Bool) : Reads s [] s := fun _ b hb => ⟨b, hb, rfl⟩

theorem Reads.append {s t u : Bool} {as bs : List Char} (ha : Reads s as t) (hb : Reads t bs u) :
    Reads s (as ++ bs) u := by
  intro d b h
  obtain ⟨b₁, h₁, hr₁⟩ := ha d b h
  obtain ⟨b₂, h₂, hr₂⟩ := hb d b₁ h₁
  exact ⟨b₂, h₂, by rw [read_append, hr₁, Option.bind_some, hr₂]⟩

theorem Reads.mono {s t : Bool} {cs : List Char} (h : Reads s cs false) : Reads s cs t := by
  intro d b hb
  obtain ⟨b', h', hr⟩ := h d b hb
  exact ⟨b', fun hb' => absurd (h' hb') (by simp), hr⟩

theorem Reads.ordinary {s : Bool} {cs : List Char} (hn : cs ≠ []) (h : ∀ c ∈ cs, isOrdinary c) :
    Reads s cs false :=
  fun d b _ => ⟨false, id, read_ordinary .evaluator d b hn h⟩

theorem Reads.quiet {cs : List Char} (h : ∀ c ∈ cs, isOrdinary c) : Reads false cs false := by
  rcases List.eq_nil_or_concat cs with rfl | ⟨_, _, rfl⟩
  · exact .nil false
  · exact .ordinary (by simp) h

theorem Reads.literal {s : Bool} {body : List Char} (h : Closes body) : Reads s ('"' :: body) false := by
  intro d b _
  have hs : step .evaluator (outside d b) '"' = some (inside d '"') := by simp [step, Language.isQuote]
  exact ⟨false, id, by rw [read_cons, hs, Option.bind_some, h.read]⟩

theorem Reads.parenthesized {s t : Bool} {cs : List Char} (h : Reads false cs t) :
    Reads s ('(' :: (cs ++ [')'])) false := by
  intro d b _
  have hs : step .evaluator (outside d b) '(' = some (outside (d + 1) false) := by
    simp [step, Language.isQuote]
  obtain ⟨b₁, _, hr⟩ := h (d + 1) false id
  refine ⟨false, id, ?_⟩
  rw [read_cons, hs, Option.bind_some, read_append, hr, Option.bind_some]
  simp [read_cons, step, Language.isQuote]

theorem isOrdinary_of_isBlank {c : Char} (h : isBlank c) : isOrdinary c := isOrdinary_of (by decide) h

/-- A call of `truthy` with a text as its argument. -/
def callText (cs : List Char) : List Char := truthyName.toList ++ '(' :: (cs ++ [')'])

theorem Reads.call {t : Bool} {cs : List Char} (h : Reads false cs t) : Reads false (callText cs) false :=
  (Reads.quiet (List.all_eq_true.1 (by decide))).append h.parenthesized

theorem standsAlone_of_reads {cs : List Char} {s : Bool} (h : Reads false cs s) : standsAlone .evaluator cs := by
  obtain ⟨b, _, hr⟩ := h 0 false id
  exact standsAlone_iff.2 ⟨b, hr⟩

/-! ## Wrapping -/

/-- A text with blanks neither in front nor at the end. -/
structure Solid (cs : List Char) : Prop where
  front : ∃ a rest, cs = a :: rest ∧ isBlank a = false
  back : ∃ rest z, cs = rest ++ [z] ∧ isBlank z = false

section

variable {pre body post : List Char} (hpre : ∀ c ∈ pre, isBlank c) (hbody : Solid body)
  (hpost : ∀ c ∈ post, isBlank c)

include hpre hbody

theorem takeWhile_blank (rest : List Char) : (pre ++ (body ++ rest)).takeWhile isBlank = pre := by
  obtain ⟨a, _, rfl, ha⟩ := hbody.front
  rw [List.takeWhile_append_of_pos hpre]
  simp [ha]

theorem dropWhile_blank (rest : List Char) : (pre ++ (body ++ rest)).dropWhile isBlank = body ++ rest := by
  obtain ⟨a, _, rfl, ha⟩ := hbody.front
  rw [List.dropWhile_append_of_pos hpre]
  simp [ha]

omit hpre

theorem Solid.reverse : Solid body.reverse := by
  obtain ⟨a, rest, hf, ha⟩ := hbody.front
  obtain ⟨rest', z, hb, hz⟩ := hbody.back
  exact ⟨⟨z, rest'.reverse, by rw [hb]; simp, hz⟩, ⟨rest.reverse, a, by rw [hf]; simp, ha⟩⟩

include hpre hpost

/-- **The call is put around an operand without the blanks around it.** -/
theorem wrapOperand_eq : wrapOperand (pre ++ (body ++ post)) = pre ++ (callText body ++ post) := by
  have hpost' : ∀ c ∈ post.reverse, isBlank c := fun c hc => hpost c (List.mem_reverse.1 hc)
  have hr : (pre ++ (body ++ post)).reverse = post.reverse ++ (body.reverse ++ pre.reverse) := by simp
  have ht : trim (pre ++ (body ++ post)) = body := by
    have hd := dropWhile_blank hpost' hbody.reverse []
    rw [List.append_nil, ← List.reverse_append] at hd
    rw [trim, trimStart, dropWhile_blank hpre hbody, trimEnd, hd, List.reverse_reverse]
  have hne : body.isEmpty = false := by
    obtain ⟨a, _, rfl, -⟩ := hbody.front
    rfl
  rw [wrapOperand, ht, hne, takeWhile_blank hpre hbody, hr, takeWhile_blank hpost' hbody.reverse]
  simp [callText]

end

/-- Blanks alone are no operand. -/
theorem wrapOperand_blank {cs : List Char} (h : ∀ c ∈ cs, isBlank c) : wrapOperand cs = cs := by
  have hd : trimStart cs = [] := List.dropWhile_eq_nil_iff.2 h
  rw [wrapOperand, trim, hd]
  rfl

theorem blank_or_front (cs : List Char) : (∀ c ∈ cs, isBlank c) ∨
    ∃ pre a rest, cs = pre ++ a :: rest ∧ (∀ c ∈ pre, isBlank c) ∧ isBlank a = false := by
  induction cs with
  | nil => exact .inl fun c hc => absurd hc List.not_mem_nil
  | cons c cs ih =>
    cases hc : isBlank c with
    | false => exact .inr ⟨[], c, cs, rfl, fun _ h => absurd h List.not_mem_nil, hc⟩
    | true =>
      rcases ih with h | ⟨pre, a, rest, rfl, hp, ha⟩
      · exact .inl (List.forall_mem_cons.2 ⟨hc, h⟩)
      · exact .inr ⟨c :: pre, a, rest, rfl, List.forall_mem_cons.2 ⟨hc, hp⟩, ha⟩

theorem blank_or_solid (cs : List Char) : (∀ c ∈ cs, isBlank c) ∨
    ∃ pre body post, cs = pre ++ (body ++ post) ∧ (∀ c ∈ pre, isBlank c) ∧ Solid body ∧
      ∀ c ∈ post, isBlank c := by
  rcases blank_or_front cs with h | ⟨pre, a, rest, rfl, hpre, ha⟩
  · exact .inl h
  refine .inr ?_
  rcases blank_or_front (a :: rest).reverse with h | ⟨post, z, front, he, hpost, hz⟩
  · have := h a (by simp)
    rw [ha] at this
    cases this
  · have hb : a :: rest = front.reverse ++ [z] ++ post.reverse := by
      rw [← List.reverse_reverse (a :: rest), he]
      simp
    refine ⟨pre, front.reverse ++ [z], post.reverse, by rw [hb], hpre, ⟨?_, _, z, rfl, hz⟩, by simpa using hpost⟩
    cases hf : front.reverse with
    | nil =>
      rw [hf] at hb
      exact ⟨z, [], rfl, hz⟩
    | cons b front =>
      rw [hf] at hb
      exact ⟨b, _, rfl, (List.cons.inj hb).1 ▸ ha⟩

/-- A reader in the evaluator's syntax is in no literal but a double-quoted one. -/
def OnlyDouble : Reader → Prop
  | .outside .. => True
  | .inside _ q | .escaped _ q => q = '"'

theorem onlyDouble_read : ∀ {cs : List Char} {r r' : Reader}, OnlyDouble r → read .evaluator r cs = some r' →
    OnlyDouble r'
  | [], r, r', hr, h => Option.some_inj.1 h ▸ hr
  | c :: cs, r, r', hr, h => by
    rw [read_cons] at h
    obtain ⟨r₁, h₁, h⟩ := Option.bind_eq_some_iff.1 h
    refine onlyDouble_read ?_ h
    cases r with
    | outside d b =>
      cases hq : Language.isQuote .evaluator c with
      | true =>
        have hc : c = '"' := by simpa [Language.isQuote] using hq
        subst hc
        simp only [step, hq, if_true, Option.ite_none_left_eq_some, Option.some_inj] at h₁
        exact h₁.2 ▸ rfl
      | false =>
        obtain ⟨_, _, rfl⟩ := step_outside hq h₁
        trivial
    | inside d q =>
      cases h₁
      split
      · exact hr
      split
      · trivial
      · exact hr
    | escaped d q =>
      cases h₁
      exact hr

/-- Blanks do not get a reader out of a literal. -/
theorem outside_of_read_blank {d : Nat} {b : Bool} : ∀ {cs : List Char} {r : Reader}, OnlyDouble r →
    (∀ c ∈ cs, isBlank c) → read .evaluator r cs = some (outside d b) → ∃ b', r = outside d b'
  | [], r, _, _, h => ⟨b, Option.some_inj.1 h⟩
  | c :: cs, .outside e b₁, _, h, hr => by
    have hc := isOrdinary_of_isBlank (h c (List.mem_cons_self ..))
    rw [read_cons, step_ordinary .evaluator e b₁ hc, Option.bind_some] at hr
    obtain ⟨_, he⟩ := outside_of_read_blank (r := outside e false) trivial
      (fun a ha => h a (List.mem_cons_of_mem _ ha)) hr
    cases he
    exact ⟨b₁, rfl⟩
  | c :: cs, .escaped e q, hq, h, hr => by
    obtain ⟨_, he⟩ := outside_of_read_blank (r := .inside e q) hq
      (fun a ha => h a (List.mem_cons_of_mem _ ha)) hr
    cases he
  | c :: cs, .inside e q, hq, h, hr => by
    have hc : isBlank c := h c (List.mem_cons_self ..)
    have hb : c ≠ '\\' := by rintro rfl; exact absurd hc (by decide)
    have hn : c ≠ q := by rintro rfl; rw [hq] at hc; exact absurd hc (by decide)
    rw [read_cons, step_inside .evaluator e hb hn, Option.bind_some] at hr
    obtain ⟨_, he⟩ := outside_of_read_blank (r := .inside e q) hq
      (fun a ha => h a (List.mem_cons_of_mem _ ha)) hr
    cases he

theorem Reads.wrapOperand {cs : List Char} {s : Bool} (h : Reads false cs s) :
    ∃ t, Reads false (wrapOperand cs) t := by
  rcases blank_or_solid cs with hb | ⟨pre, body, post, rfl, hpre, hbody, hpost⟩
  · exact ⟨s, by rwa [wrapOperand_blank hb]⟩
  have hquiet : ∀ {cs : List Char}, (∀ c ∈ cs, isBlank c) → Reads false cs false := fun h =>
    .quiet fun c hc => isOrdinary_of_isBlank (h c hc)
  have hb : Reads false body true := by
    intro d b hb
    obtain ⟨b₁, h₁, hr₁⟩ := hquiet hpre d b hb
    obtain ⟨b₂, -, hr₂⟩ := h d b hb
    rw [read_append, hr₁, Option.bind_some, read_append] at hr₂
    obtain ⟨r, hr, hr₂⟩ := Option.bind_eq_some_iff.1 hr₂
    obtain ⟨b', rfl⟩ := outside_of_read_blank (onlyDouble_read (r := outside d b₁) trivial hr) hpost hr₂
    obtain rfl : b₁ = b := by cases b₁ <;> simp_all
    exact ⟨b', fun _ => rfl, hr⟩
  rw [wrapOperand_eq hpre hbody hpost]
  exact ⟨false, (hquiet hpre).append (hb.call.append (hquiet hpost))⟩

/-! ## Rendering -/

/-- The rendered form of a part is read where the part is. -/
def Piece.Reads (slash slash' : Bool) : Piece → Prop
  | .plain cs => FraudScreen.Expr.Reads slash cs slash'
  | .link _ => slash' = false
  | .stop c => slash' = false ∧ isOrdinary c

/-- Every operand of a clause is read by itself, and the text since may leave a slash behind. -/
structure Clause.Reads (k : Clause) (slash : Bool) : Prop where
  linked : ∀ q ∈ k.linked, ∃ s, FraudScreen.Expr.Reads false q.1 s
  current : FraudScreen.Expr.Reads false k.current slash

theorem Clause.Reads.empty : Clause.empty.Reads false :=
  ⟨fun _ h => absurd h List.not_mem_nil, .nil false⟩

theorem isOrdinary_of_mem_symbol (op : Connective) : ∀ c ∈ op.symbol, isOrdinary c :=
  List.all_eq_true.1 (by cases op <;> decide)

theorem reads_linked {linked : List (List Char × Connective)} (h : ∀ q ∈ linked, ∃ s, Reads false q.1 s) :
    Reads false (linked.flatMap fun q => wrapOperand q.1 ++ q.2.symbol) false := by
  induction linked with
  | nil => exact .nil false
  | cons q linked ih =>
    obtain ⟨⟨_, hq⟩, h⟩ := List.forall_mem_cons.1 h
    obtain ⟨_, hq⟩ := hq.wrapOperand
    have hs : ∀ s, Reads s q.2.symbol false := fun s =>
      .ordinary (by cases q.2 <;> decide) (isOrdinary_of_mem_symbol q.2)
    rw [List.flatMap_cons]
    exact (hq.append (hs _)).append (ih h)

theorem Clause.Reads.render {k : Clause} {s : Bool} (h : k.Reads s) :
    ∃ t, FraudScreen.Expr.Reads false k.render t := by
  unfold Clause.render
  split
  · exact ⟨s, h.current⟩
  obtain ⟨t, ht⟩ := h.current.wrapOperand
  exact ⟨t, (reads_linked h.linked).append ht⟩

/-- A rendered part leads from one clause to another, and a separator leaves the text of the first behind. -/
theorem Clause.Reads.advance {k : Clause} {s t : Bool} (h : k.Reads s) {piece : Piece} (hp : piece.Reads s t) :
    ∃ before k', FraudScreen.Expr.Reads false before false ∧ k'.Reads t ∧
      ∀ pieces, joinPieces k (piece :: pieces) = before ++ joinPieces k' pieces := by
  cases piece with
  | plain cs => exact ⟨[], ⟨k.linked, k.current ++ cs⟩, .nil false, ⟨h.linked, h.current.append hp⟩, fun _ => rfl⟩
  | link op =>
    obtain rfl : t = false := hp
    refine ⟨[], ⟨k.linked ++ [(k.current, op)], []⟩, .nil false, ⟨fun q hq => ?_, .nil false⟩, fun _ => rfl⟩
    rcases List.mem_append.1 hq with hq | hq
    · exact h.linked q hq
    · exact ⟨s, List.mem_singleton.1 hq ▸ h.current⟩
  | stop c =>
    obtain ⟨rfl, hc⟩ := hp
    obtain ⟨u, hu⟩ := h.render
    have hstop : FraudScreen.Expr.Reads u [c] false := .ordinary (by simp) (by simpa using hc)
    exact ⟨k.render ++ [c], .empty, hu.append hstop, .empty, fun _ => by simp [joinPieces]⟩

theorem read_bang {blanks : List Char} (hb : ∀ c ∈ blanks, isBlank c) (d : Nat) (s : Bool) :
    read .evaluator (outside d s) ('!' :: blanks) = some (outside d false) :=
  read_ordinary .evaluator d s (List.cons_ne_nil '!' blanks)
    (List.forall_mem_cons.2 ⟨rfl, fun c hc => isOrdinary_of_isBlank (hb c hc)⟩)

/-- A single character outside of literals. -/
theorem Reads.char {d : Nat} {c : Char} {s : Bool} {r : Reader} (hc : c ∉ ['"', '(', ')'])
    (h : step .evaluator (outside d s) c = some r) : r = outside d (c = '/') ∧ Reads s [c] (c = '/') := by
  have hq : Language.isQuote .evaluator c = false := by simp_all [Language.isQuote]
  simp only [List.mem_cons, List.not_mem_nil, or_false, not_or] at hc
  simp only [step, hq, hc.2.1, hc.2.2, if_false, Bool.false_eq_true, Option.ite_none_left_eq_some,
    Option.some_inj] at h
  refine ⟨h.2.symm, fun e b hb => ⟨decide (c = '/'), id, ?_⟩⟩
  have hn : ¬ (b = true ∧ (c = '/' ∨ c = '*')) := fun hn => h.1 ⟨hb hn.1, hn.2⟩
  rw [read_cons]
  simp [step, hq, hc.2.1, hc.2.2, hn]

mutual

theorem Part.reads_render : ∀ (p : Part), p.Whole → ∀ {d : Nat} {s : Bool} {more : List Char} {r : Reader},
    read .evaluator (outside d s) (p.print ++ more) = some r →
      ∃ t, read .evaluator (outside d t) more = some r ∧ p.render.Reads s t
  | .char c, hw, d, s, more, r, h => by
    rw [Part.print, List.singleton_append, read_cons] at h
    obtain ⟨r₁, h₁, h⟩ := Option.bind_eq_some_iff.1 h
    obtain ⟨rfl, hc⟩ := Reads.char hw h₁
    exact ⟨_, h, hc⟩
  | .text _, ⟨body, rfl, hb⟩, d, s, more, r, h => by
    have hs : step .evaluator (outside d s) '"' = some (inside d '"') := by simp [step, Language.isQuote]
    rw [Part.print, List.cons_append, read_cons, hs, Option.bind_some, read_append, hb.read,
      Option.bind_some] at h
    exact ⟨false, h, .literal hb⟩
  | .link op, _, d, s, more, r, h => by
    rw [Part.print, read_append, read_ordinary .evaluator d s (by cases op <;> decide)
      (isOrdinary_of_mem_symbol op), Option.bind_some] at h
    exact ⟨false, h, rfl⟩
  | .stop c, hw, d, s, more, r, h => by
    have hc : isOrdinary c := by rcases hw with rfl | rfl <;> rfl
    rw [Part.print, List.singleton_append, read_cons, step_ordinary .evaluator d s hc, Option.bind_some] at h
    exact ⟨false, h, rfl, hc⟩
  | .group body true, ⟨_, hw⟩, d, s, more, r, h => by
    have hs : step .evaluator (outside d s) '(' = some (outside (d + 1) false) := by
      simp [step, Language.isQuote]
    have hc : ∀ t, step .evaluator (outside (d + 1) t) ')' = some (outside d false) := by
      simp [step, Language.isQuote]
    rw [Part.print, if_pos rfl, List.cons_append, List.cons_append, List.append_assoc, read_cons, hs,
      Option.bind_some] at h
    obtain ⟨t, h, hk⟩ := reads_joinPieces body hw h
    obtain ⟨u, hu⟩ := hk .empty .empty
    rw [List.singleton_append, read_cons, hc, Option.bind_some] at h
    exact ⟨false, h, hu.parenthesized⟩
  | .not blanks operand, ⟨hb, hw⟩, d, s, more, r, h => by
    rw [Part.print, List.append_assoc, read_append, read_bang hb, Option.bind_some] at h
    obtain ⟨t, h, hk⟩ := reads_joinPieces operand hw h
    obtain ⟨u, hu⟩ := hk .empty .empty
    have hbang : Reads s ['!'] false := .ordinary (by simp) (List.all_eq_true.1 (by decide))
    exact ⟨t, h, (hbang.append hu.call).mono⟩

theorem reads_joinPieces : ∀ (ps : List Part), WholeParts ps → ∀ {d : Nat} {s : Bool} {more : List Char} {r : Reader},
    read .evaluator (outside d s) (printParts ps ++ more) = some r →
      ∃ t, read .evaluator (outside d t) more = some r ∧
        ∀ k : Clause, k.Reads s → ∃ u, Reads false (joinPieces k (renderParts ps)) u
  | [], _, d, s, more, r, h => ⟨s, h, fun k hk => hk.render⟩
  | p :: ps, hw, d, s, more, r, h => by
    rw [printParts, List.append_assoc] at h
    obtain ⟨t, h, hp⟩ := Part.reads_render p hw.1 h
    obtain ⟨u, h, hps⟩ := reads_joinPieces ps hw.2 h
    refine ⟨u, h, fun k hk => ?_⟩
    obtain ⟨before, k', hbefore, hk', hj⟩ := hk.advance hp
    obtain ⟨v, hv⟩ := hps k' hk'
    exact ⟨v, by rw [renderParts, hj]; exact hbefore.append hv⟩

end

theorem reads_withTruthiness {cs : List Char} (h : standsAlone .evaluator cs) :
    ∃ s, Reads false (withTruthinessChars cs) s := by
  obtain ⟨b, hb⟩ := standsAlone_iff.1 h
  rw [← print_outline cs, ← List.append_nil (printParts _)] at hb
  obtain ⟨_, -, hk⟩ := reads_joinPieces _ (whole_outline h) hb
  exact hk .empty .empty

/-- **What stands alone stands alone with its operands wrapped.** -/
theorem standsAlone_withTruthiness {cs : List Char} (h : standsAlone .evaluator cs) :
    standsAlone .evaluator (withTruthinessChars cs) := by
  obtain ⟨s, hs⟩ := reads_withTruthiness h
  exact standsAlone_of_reads hs

end FraudScreen.Expr
