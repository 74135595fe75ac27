import FraudScreen.Proofs.Expr.Lexeme

/-!
# The normal form of rules

A rule is settled when its lexemes are all evaluator syntax. Settled rules are left untouched, and every
rewritten rule is settled, so a second pass changes nothing: `normalize_idempotent`. Neighbouring lexemes
do not combine into a new one, because a rewritten rest begins as the rest did, or with a character that no
number and no word goes on with (`BeginsLike`).
-/
namespace FraudScreen.Expr

open Text

/-- All lexemes are evaluator syntax, given the character before the text. -/
def SettledAfter (last : Option Char) (cs : List Char) : Prop := ∀ l ∈ lexemes last cs, l.settled

/-- The rule is in evaluator syntax throughout. -/
def IsSettled (rule : String) : Prop := SettledAfter none rule.toList

section

variable {last : Option Char} {c : Char} {rest : List Char}

theorem settledAfter_nil : SettledAfter last [] := by simp [SettledAfter, lexemes]

theorem settledAfter_cons : SettledAfter last (c :: rest) ↔ (nextLexeme last c rest).1.settled ∧
    SettledAfter ((nextLexeme last c rest).1.print.getLast?.or last) (nextLexeme last c rest).2 := by
  rw [SettledAfter, lexemes, List.forall_mem_cons]
  rfl

theorem normalizeAfter_cons : normalizeAfter last (c :: rest) = (nextLexeme last c rest).1.spell ++
    normalizeAfter ((nextLexeme last c rest).1.spell.getLast?.or last) (nextLexeme last c rest).2 := by
  rw [normalizeAfter, normalizeStep_eq]

end

/-- A settled text is left untouched. -/
theorem normalizeAfter_of_settled {last : Option Char} {cs : List Char} (h : SettledAfter last cs) :
    normalizeAfter last cs = cs := by
  induction last, cs using lexemes.induct with
  | case1 => rw [normalizeAfter]
  | case2 last c rest next ih =>
    obtain ⟨hl, hr⟩ := settledAfter_cons.1 h
    rw [normalizeAfter_cons, Lexeme.spell_eq_print hl, ih hr, print_nextLexeme]

/-! ## Fronts -/

/-- The characters that only rewriting puts in front: none of them goes on a number, a word or a sign. -/
def fronts : List Char := ['"', '!', '&', '|']

/-- The written text begins as the source does, or with a character from `fronts`. -/
def BeginsLike (written source : List Char) : Prop :=
  written.head? = source.head? ∨ ∃ c ∈ fronts, written.head? = some c

namespace BeginsLike

variable {written source : List Char}

theorem any_eq_false {p : Char → Bool} (h : BeginsLike written source) (hp : fronts.any p = false)
    (hs : source.head?.any p = false) : written.head?.any p = false := by
  rcases h with h | ⟨c, hc, h⟩
  · rw [h, hs]
  · rw [h]
    exact Bool.eq_false_iff.2 fun hpc => Bool.eq_false_iff.1 hp (List.any_eq_true.2 ⟨c, hc, hpc⟩)

theorem append (h : BeginsLike written source) (cs : List Char) :
    BeginsLike (cs ++ written) (cs ++ source) := by
  cases cs with
  | nil => exact h
  | cons c cs => exact .inl rfl

end BeginsLike

theorem beginsLike_respell {word : List Char} (h : word ≠ []) (more more' : List Char) :
    BeginsLike (respell word ++ more) (word ++ more') := by
  obtain ⟨c, cs, rfl⟩ := List.exists_cons_of_ne_nil h
  unfold respell
  split
  · exact .inr ⟨'&', by decide, rfl⟩
  split
  · exact .inr ⟨'|', by decide, rfl⟩
  split
  · exact .inr ⟨'!', by decide, rfl⟩
  · exact .inl rfl

theorem Lexeme.beginsLike_spell {l : Lexeme} (h : l.print ≠ []) (more more' : List Char) :
    BeginsLike (l.spell ++ more) (l.print ++ more') := by
  cases l with
  | quoted body => exact .inr ⟨'"', by decide, rfl⟩
  | unequal => exact .inr ⟨'!', by decide, rfl⟩
  | word cs => exact beginsLike_respell h more more'
  | text cs | number cs =>
    obtain ⟨c, cs, rfl⟩ := List.exists_cons_of_ne_nil h
    exact .inl rfl
  | equality | completion | lone | other => exact .inl rfl

theorem beginsLike_normalizeAfter (last : Option Char) (cs : List Char) :
    BeginsLike (normalizeAfter last cs) cs := by
  cases cs with
  | nil => exact .inl (by rw [normalizeAfter])
  | cons c rest =>
    have h := Lexeme.beginsLike_spell (print_ne_nil last c rest) (normalizeAfter
      ((nextLexeme last c rest).1.spell.getLast?.or last) (nextLexeme last c rest).2) (nextLexeme last c rest).2
    rwa [print_nextLexeme, ← normalizeAfter_cons] at h

/-! ## Reading what was written -/

theorem spanText_again {cs t : List Char} (h : (spanText cs).2 = [] → t = []) :
    spanText ((spanText cs).1 ++ t) = ((spanText cs).1, t) := by
  fun_induction spanText cs with
  | case1 => rw [h rfl]; rfl
  | case2 c rest ih => simp [spanText, ih h]
  | case3 => rfl
  | case4 c rest hb hq ih =>
    by_cases hc : c = '\\'
    · cases rest with
      | nil => rw [h rfl, hc]; rfl
      | cons a rest => exact absurd rfl (hb a rest hc)
    · simp [spanText, hc, ih h]

/-- The closing quote is written even where the source has none. -/
theorem spanText_requote {cs t : List Char} (h : (requote cs).2 = [] → t = []) :
    spanText ((requote cs).1 ++ t) = ((requote cs).1, t) := by
  fun_induction requote cs with
  | case1 => rfl
  | case2 => rfl
  | case3 c rest ih => simp [spanText, ih h]
  | case4 rest ih => simp [spanText, ih h]
  | case5 c rest hs hb hq ih =>
    by_cases hc : c = '\\'
    · cases rest with
      | nil => rw [h rfl, hc]; rfl
      | cons a rest => exact absurd rfl (hb a rest hc)
    · simp [spanText, hc, ih h]

theorem span_append {p : Char → Bool} {cs t : List Char} (hc : ∀ c ∈ cs, p c) (ht : t.head?.any p = false) :
    (cs ++ t).takeWhile p = cs ∧ (cs ++ t).dropWhile p = t := by
  rw [List.takeWhile_append_of_pos hc, List.dropWhile_append_of_pos hc]
  cases t with
  | nil => simp
  | cons a t =>
    have ha : p a = false := ht
    simp [ha]

theorem head?_dropWhile_any (p : Char → Bool) (cs : List Char) : (cs.dropWhile p).head?.any p = false := by
  have h := List.head?_dropWhile_not p cs
  cases hd : (cs.dropWhile p).head? with
  | none => rfl
  | some a => simpa [hd] using h

section

variable {e s : Char} {t : List Char}

theorem spanExponentMark_of_not (h : t.head?.any ['e', 'E'].contains = false) : spanExponentMark t = ([], t) := by
  cases t with
  | nil => rfl
  | cons a t => exact if_neg (by simpa using h)

theorem spanExponentMark_unsigned (he : e ∈ ['e', 'E']) (h : t.head?.any ['+', '-'].contains = false) :
    spanExponentMark (e :: t) = ([e], t) := by
  refine (if_pos (by simpa using he)).trans ?_
  cases t with
  | nil => rfl
  | cons s t => exact if_neg (by simpa using h)

theorem spanExponentMark_signed (he : e ∈ ['e', 'E']) (hs : s ∈ ['+', '-']) :
    spanExponentMark (e :: s :: t) = ([e, s], t) := by
  refine (if_pos (by simpa using he)).trans ?_
  exact if_pos (by simpa using hs)

end

theorem exists_cons_of_any {p : Char → Bool} {cs : List Char} (h : cs.head?.any p ≠ false) :
    ∃ c rest, cs = c :: rest ∧ p c := by
  cases cs with
  | nil => exact absurd rfl h
  | cons c rest => exact ⟨c, rest, rfl, Bool.ne_false_iff.1 h⟩

/-- A longest run that was written is the longest run again. -/
theorem span_again {p : Char → Bool} {cs t : List Char} (hp : fronts.any p = false)
    (h : BeginsLike t (cs.dropWhile p)) :
    (cs.takeWhile p ++ t).takeWhile p = cs.takeWhile p ∧ (cs.takeWhile p ++ t).dropWhile p = t :=
  span_append (fun _ hc => List.mem_takeWhile_imp hc) (h.any_eq_false hp (head?_dropWhile_any p cs))

theorem spanExponentMark_again {cs t : List Char} (h : BeginsLike t (spanExponentMark cs).2) :
    spanExponentMark ((spanExponentMark cs).1 ++ t) = ((spanExponentMark cs).1, t) := by
  by_cases hn : cs.head?.any ['e', 'E'].contains = false
  · rw [spanExponentMark_of_not hn] at h ⊢
    exact spanExponentMark_of_not (h.any_eq_false (by decide) hn)
  obtain ⟨e, rest, rfl, he⟩ := exists_cons_of_any hn
  have he : e ∈ ['e', 'E'] := List.contains_iff_mem.1 he
  by_cases hu : rest.head?.any ['+', '-'].contains = false
  · rw [spanExponentMark_unsigned he hu] at h ⊢
    exact spanExponentMark_unsigned he (h.any_eq_false (by decide) hu)
  · obtain ⟨s, more, rfl, hs⟩ := exists_cons_of_any hu
    have hs : s ∈ ['+', '-'] := List.contains_iff_mem.1 hs
    rw [spanExponentMark_signed he hs]
    exact spanExponentMark_signed he hs

/-- The pieces of a number, in front of a text that does not go on with it. -/
theorem spanNumeral_pieces {body mark suffix t : List Char} (hb : ∀ c ∈ body, isDecimalPart c)
    (hd : (mark ++ (suffix ++ t)).head?.any isDecimalPart = false)
    (hm : spanExponentMark (mark ++ (suffix ++ t)) = (mark, suffix ++ t)) (hs : ∀ c ∈ suffix, isNumberSuffix c)
    (ht : t.head?.any isNumberSuffix = false) :
    spanNumeral (body ++ (mark ++ suffix) ++ t) = (body ++ (mark ++ suffix), t) := by
  have hbody := span_append hb hd
  have hsuffix := span_append hs ht
  rw [List.append_assoc, List.append_assoc, spanNumeral, hbody.1, hbody.2, hm, hsuffix.1, hsuffix.2]

/-- A number that was written is read again as a whole. -/
theorem spanNumeral_again {cs t : List Char} (h : BeginsLike t (spanNumeral cs).2) :
    spanNumeral ((Lexeme.number (spanNumeral cs).1).spell ++ t) =
      ((Lexeme.number (spanNumeral cs).1).spell, t) := by
  have hall := all_isDigit_exponent cs
  have hd := head?_dropWhile_any isDecimalPart cs
  have hmark := spanExponentMark_append (cs.dropWhile isDecimalPart)
  have hagain := @spanExponentMark_again (cs.dropWhile isDecimalPart)
  simp only [spanNumeral] at h hall ⊢
  have hb : ∀ c ∈ cs.takeWhile isDecimalPart, isDecimalPart c := fun c hc => List.mem_takeWhile_imp hc
  generalize cs.takeWhile isDecimalPart = body at hb ⊢
  generalize cs.dropWhile isDecimalPart = after at *
  generalize spanExponentMark after = mark at *
  obtain ⟨mark, left⟩ := mark
  dsimp only at *
  have hleft : BeginsLike (left.takeWhile isNumberSuffix ++ t) left := by
    have ha := h.append (left.takeWhile isNumberSuffix)
    rwa [List.takeWhile_append_dropWhile] at ha
  have hafter : BeginsLike (mark ++ (left.takeWhile isNumberSuffix ++ t)) after := hmark ▸ hleft.append mark
  have hread {body : List Char} (hb : ∀ c ∈ body, isDecimalPart c) :=
    spanNumeral_pieces hb (hafter.any_eq_false (by decide) hd) (hagain hleft)
      (fun c hc => List.mem_takeWhile_imp hc) (h.any_eq_false (by decide) (head?_dropWhile_any _ _))
  rw [Lexeme.spell]
  split
  · rename_i hw
    rw [List.all_append, hall, Bool.and_eq_true, Bool.and_eq_true, List.isEmpty_iff, List.isEmpty_iff] at hw
    have hnil : mark ++ left.takeWhile isNumberSuffix = [] := List.append_eq_nil_iff.2 hw.2
    have hb : ∀ c ∈ body ++ ['.', '0'], isDecimalPart c :=
      List.forall_mem_append.2 ⟨hb, List.all_eq_true.1 (by decide)⟩
    have hr := hread hb
    rw [hnil, List.append_nil] at hr ⊢
    exact hr
  · rw [List.append_nil]
    exact hread hb

/-- A number that was written is not whole. -/
theorem settled_spell_number (cs : List Char) : (Lexeme.number (Lexeme.number cs).spell).settled := by
  rw [Lexeme.spell, Lexeme.settled, Bool.not_eq_true']
  split
  · rw [List.all_append]
    exact Bool.and_false _
  · rename_i h
    rw [List.append_nil]
    exact Bool.not_eq_true _ ▸ h

/-! ## One step -/

section

variable {last : Option Char} {c : Char} {rest t : List Char}

theorem SettledAfter.cons {l : Lexeme} (h : nextLexeme last c rest = (l, t)) (hl : l.settled)
    (ht : SettledAfter (l.print.getLast?.or last) t) : SettledAfter last (c :: rest) :=
  settledAfter_cons.2 (by rw [h]; exact ⟨hl, ht⟩)

theorem SettledAfter.text {body : List Char} (h : spanText (body ++ t) = (body, t))
    (ht : SettledAfter (('"' :: body).getLast?.or last) t) : SettledAfter last ('"' :: body ++ t) :=
  .cons (l := .text ('"' :: body)) (by simp [nextLexeme, h]) rfl ht

/-- A sign of its own that rewriting puts in front. -/
theorem SettledAfter.sign (hc : c ∈ ['!', '&', '|']) (ht : SettledAfter (some c) t) :
    SettledAfter last (c :: t) := by
  have h : nextLexeme last c t = (.other c, t) := by
    simp only [List.mem_cons, List.not_mem_nil, or_false] at hc
    rcases hc with rfl | rfl | rfl <;> rfl
  exact .cons h rfl ht

theorem SettledAfter.equality (ht : SettledAfter (some '=') t) : SettledAfter last ('=' :: '=' :: t) :=
  .cons (l := .equality) rfl rfl ht

theorem nextLexeme_completion (hl : completes last) (ht : t.head? ≠ some '=') :
    nextLexeme last '=' t = (.completion, t) := by
  simp [nextLexeme, ht, hl]

/-- Equals signs are paired from the first on, but where the pairing begins does not matter after a sign that
they complete. -/
theorem settledAfter_completion : ∀ {t : List Char} {last : Option Char}, completes last →
    (SettledAfter last ('=' :: t) ↔ SettledAfter (some '=') t)
  | [], last, hl => by
    rw [settledAfter_cons, nextLexeme_completion hl (by simp)]
    exact and_iff_right rfl
  | a :: t, last, hl => by
    by_cases ha : a = '='
    · subst ha
      have he : nextLexeme last '=' ('=' :: t) = (.equality, t) := rfl
      rw [settledAfter_cons, he, settledAfter_completion rfl]
      exact and_iff_right rfl
    · rw [settledAfter_cons, nextLexeme_completion hl (by simpa using ha)]
      exact and_iff_right rfl

theorem spanNumeral_cons (h : isDecimalPart c) :
    spanNumeral (c :: rest) = (c :: (spanNumeral rest).1, (spanNumeral rest).2) := by
  simp only [spanNumeral, List.takeWhile_cons_of_pos h, List.dropWhile_cons_of_pos h, List.cons_append]

theorem isDecimalPart_of_front (h : c.isDigit ∨ (c = '.' ∧ rest.head?.any Char.isDigit)) : isDecimalPart c := by
  rcases h with h | h
  · simp [isDecimalPart, h]
  · rw [h.1]; rfl

theorem nextLexeme_number (h : c.isDigit ∨ (c = '.' ∧ rest.head?.any Char.isDigit)) :
    nextLexeme last c rest = (.number (spanNumeral (c :: rest)).1, (spanNumeral (c :: rest)).2) := by
  have hc := isDecimalPart_of_front h
  have hne : ∀ a, isDecimalPart a = false → c ≠ a := fun a ha e => by simp [e, ha] at hc
  rw [nextLexeme, if_neg (hne _ rfl), if_neg (hne _ rfl), if_neg (hne _ rfl), if_neg fun h => hne _ rfl h.1,
    if_pos h]

theorem nextLexeme_word (h : isAlphabetic c || c == '_') (hd : c.isDigit = false) :
    nextLexeme last c rest = (.word (c :: rest.takeWhile isNamePart), rest.dropWhile isNamePart) := by
  have hne : ∀ a, (isAlphabetic a || a == '_') = false → c ≠ a := fun a ha e => by
    rw [e, ha] at h
    cases h
  have hn : ¬(c.isDigit ∨ (c = '.' ∧ rest.head?.any Char.isDigit)) := by
    rw [hd]
    rintro (h | h)
    · cases h
    · exact hne _ rfl h.1
  rw [nextLexeme, if_neg (hne _ rfl), if_neg (hne _ rfl), if_neg (hne _ rfl), if_neg fun h => hne _ rfl h.1,
    if_neg hn, if_pos h]

/-- A number that was written is a number again. -/
theorem SettledAfter.number (h : c.isDigit ∨ (c = '.' ∧ rest.head?.any Char.isDigit))
    (hb : BeginsLike t (spanNumeral (c :: rest)).2)
    (ht : SettledAfter ((Lexeme.number (spanNumeral (c :: rest)).1).spell.getLast?.or last) t) :
    SettledAfter last ((Lexeme.number (spanNumeral (c :: rest)).1).spell ++ t) := by
  have hagain := spanNumeral_again hb
  have hset := settled_spell_number (spanNumeral (c :: rest)).1
  obtain ⟨more, hm, hfront⟩ : ∃ more, (Lexeme.number (spanNumeral (c :: rest)).1).spell = c :: more ∧
      (c.isDigit ∨ (c = '.' ∧ (more ++ t).head?.any Char.isDigit)) := by
    have hc := isDecimalPart_of_front h
    refine ⟨_, by rw [spanNumeral_cons hc]; rfl, h.imp_right fun hp => ⟨hp.1, ?_⟩⟩
    obtain ⟨d, more, rfl, hdigit⟩ := exists_cons_of_any (Bool.ne_false_iff.2 hp.2)
    rw [spanNumeral_cons (by simp [isDecimalPart, hdigit])]
    exact hdigit
  rw [hm] at ht hagain hset ⊢
  refine .cons (l := .number (c :: more)) ?_ hset ht
  exact (nextLexeme_number hfront).trans (by rw [← List.cons_append, hagain])

/-- A word that was written is a word again, or the signs of an operator. -/
theorem SettledAfter.word (h : isAlphabetic c || c == '_') (hd : c.isDigit = false)
    (hb : BeginsLike t (rest.dropWhile isNamePart))
    (ht : SettledAfter ((respell (c :: rest.takeWhile isNamePart)).getLast?.or last) t) :
    SettledAfter last (respell (c :: rest.takeWhile isNamePart) ++ t) := by
  revert ht
  unfold respell
  split
  · exact fun ht => .sign (c := '&') (by decide) (.sign (by decide) ht)
  split
  · exact fun ht => .sign (c := '|') (by decide) (.sign (by decide) ht)
  split
  · exact fun ht => .sign (c := '!') (by decide) ht
  · rename_i h1 h2 h3
    intro ht
    have hs : (Lexeme.word (c :: rest.takeWhile isNamePart)).settled := by
      simp [Lexeme.settled, Lexeme.keywords, h1, h2, h3]
    obtain ⟨hw, hr⟩ := span_again (by decide) hb
    rw [List.cons_append]
    refine .cons ?_ hs ht
    exact (nextLexeme_word h hd).trans (by rw [hw, hr])

/-- **What a step writes stays evaluator syntax** in front of a settled rest. -/
theorem settledAfter_spell {l : Lexeme} {left : List Char} (h : nextLexeme last c rest = (l, left))
    (hb : BeginsLike t left) (hn : left = [] → t = []) (ht : SettledAfter (l.spell.getLast?.or last) t) :
    SettledAfter last (l.spell ++ t) := by
  unfold nextLexeme at h
  split at h
  · cases h
    exact .text (spanText_again hn) ht
  split at h
  · cases h
    have hr := requote_eq rest
    have hs : spanText ((requote rest).1 ++ t) = ((requote rest).1, t) := spanText_requote (by rw [hr]; exact hn)
    rw [hr] at hs
    exact .text hs ht
  split at h
  · split at h
    · cases h
      exact ht.equality
    · split at h
      · rename_i hl
        cases h
        exact (settledAfter_completion hl).2 ht
      · cases h
        exact ht.equality
  split at h
  · cases h
    exact .sign (by decide) ((settledAfter_completion rfl).2 ht)
  split at h
  · rename_i hc
    cases h
    exact .number hc hb ht
  rename_i hc
  have hd : c.isDigit = false := Bool.eq_false_iff.2 fun h => hc (.inl h)
  split at h
  · rename_i hw
    cases h
    exact .word hw hd hb ht
  · rename_i hq hs he hu hw
    cases h
    have hu' : ¬(c = '<' ∧ t.head? = some '>') := fun ⟨hc, ht⟩ => by
      have hr : rest.head?.any (· == '>') = false :=
        Bool.eq_false_iff.2 fun h => hu ⟨hc, by simpa [Option.any_eq_true] using h⟩
      simpa [ht] using hb.any_eq_false (by decide) hr
    have hc' : ¬(c.isDigit ∨ (c = '.' ∧ t.head?.any Char.isDigit)) := by
      rw [not_or, not_and, Bool.not_eq_true, Bool.not_eq_true] at hc ⊢
      exact ⟨hd, fun h => hb.any_eq_false (by decide) (hc.2 h)⟩
    change SettledAfter last (c :: t)
    refine .cons (l := .other c) ?_ rfl ht
    rw [nextLexeme, if_neg hq, if_neg hs, if_neg he, if_neg hu', if_neg hc', if_neg hw]

end

/-! ## All steps -/

/-- A rewritten text is settled. -/
theorem settledAfter_normalizeAfter (last : Option Char) (cs : List Char) :
    SettledAfter last (normalizeAfter last cs) := by
  induction last, cs using normalizeAfter.induct with
  | case1 last =>
    rw [normalizeAfter]
    exact settledAfter_nil
  | case2 last c rest step ih =>
    simp only [step, normalizeStep_eq] at ih
    rw [normalizeAfter_cons]
    refine settledAfter_spell (Prod.eta (nextLexeme last c rest)).symm (beginsLike_normalizeAfter _ _)
      (fun h => ?_) ih
    rw [h, normalizeAfter]

theorem toList_normalize (rule : String) : (normalize rule).toList = normalizeAfter none rule.toList :=
  String.toList_ofList

theorem normalize_eq_self {rule : String} (h : IsSettled rule) : normalize rule = rule := by
  rw [normalize, normalizeAfter_of_settled h, String.ofList_toList]

theorem isSettled_normalize (rule : String) : IsSettled (normalize rule) := by
  rw [IsSettled, toList_normalize]
  exact settledAfter_normalizeAfter none rule.toList

/-- **Normalization reaches a fixed point in one step.** What it writes is evaluator syntax throughout, and the
rules that it leaves untouched are the ones in evaluator syntax. -/
theorem normalize_idempotent (rule : String) : normalize (normalize rule) = normalize rule ∧
    IsSettled (normalize rule) ∧ (normalize rule = rule ↔ IsSettled rule) :=
  ⟨normalize_eq_self (isSettled_normalize rule), isSettled_normalize rule,
    fun h => h ▸ isSettled_normalize rule, normalize_eq_self⟩

end FraudScreen.Expr
