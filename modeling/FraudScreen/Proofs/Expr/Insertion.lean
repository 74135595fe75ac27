import Mathlib
import FraudScreen.Proofs.Expr.Item
import FraudScreen.Proofs.Expr.Precedence
import FraudScreen.Proofs.Expr.Rendering

/-!
# What wrapping operands inserts

Blanks aside, wrapping the operands of a rule only puts calls of `truthy` around stretches of it. If its literals are
all terminated they stay as they are, and its parentheses are balanced afterwards if they were before; a rule without
connectives is left alone. All of it is `withTruthiness_inserts`. That does not keep a rule with unbalanced
parentheses from compiling: `compile_unbalanced`.
-/
namespace FraudScreen.Expr

open Text Reader

/-! ## Insertion -/

/-- The second text is the first with calls of `truthy` put around stretches of it. -/
inductive Wraps : List Char → List Char → Prop where
  | nil : Wraps [] []
  | keep (c : Char) {as as' : List Char} (_ : Wraps as as') : Wraps (c :: as) (c :: as')
  | call {as as' bs bs' : List Char} (_ : Wraps as as') (_ : Wraps bs bs') :
      Wraps (as ++ bs) (callText as' ++ bs')

namespace Wraps

theorem refl : ∀ cs : List Char, Wraps cs cs
  | [] => .nil
  | c :: cs => .keep c (refl cs)

theorem append {as as' bs bs' : List Char} (ha : Wraps as as') (hb : Wraps bs bs') :
    Wraps (as ++ bs) (as' ++ bs') := by
  induction ha with
  | nil => exact hb
  | keep c _ ih => exact .keep c ih
  | call h _ _ ih =>
    rw [List.append_assoc, List.append_assoc]
    exact .call h ih

theorem called {as as' : List Char} (h : Wraps as as') : Wraps as (callText as') := by
  simpa using h.call .nil

end Wraps

/-- The text without its blanks. -/
def withoutBlanks (cs : List Char) : List Char := cs.filter (!isBlank ·)

theorem withoutBlanks_cons {c : Char} (h : isBlank c = false) (cs : List Char) :
    withoutBlanks (c :: cs) = c :: withoutBlanks cs := List.filter_cons_of_pos (by simp [h])

theorem withoutBlanks_append (as bs : List Char) : withoutBlanks (as ++ bs) = withoutBlanks as ++ withoutBlanks bs :=
  List.filter_append ..

theorem withoutBlanks_of_blank {cs : List Char} (h : ∀ c ∈ cs, isBlank c) : withoutBlanks cs = [] :=
  List.filter_eq_nil_iff.2 fun c hc => by simp [h c hc]

theorem withoutBlanks_callText (cs : List Char) : withoutBlanks (callText cs) = callText (withoutBlanks cs) := by
  have hn : withoutBlanks truthyName.toList = truthyName.toList := by decide
  rw [callText, withoutBlanks_append, hn, withoutBlanks_cons rfl, withoutBlanks_append]
  rfl

theorem respects_wraps : Respects (fun _ => True) fun as as' => Wraps (withoutBlanks as) (withoutBlanks as') where
  nil := .nil
  append ha hb := by
    rw [withoutBlanks_append, withoutBlanks_append]
    exact ha.append hb
  mark _ := .refl _
  wrap {_ as as'} _ h := by
    rcases blank_or_solid as' with hb | ⟨pre, body, post, rfl, hpre, hbody, hpost⟩
    · rwa [wrapOperand_blank hb]
    · rw [wrapOperand_eq hpre hbody hpost]
      simp only [withoutBlanks_append, withoutBlanks_of_blank hpre, withoutBlanks_of_blank hpost,
        List.nil_append, List.append_nil, withoutBlanks_callText] at h ⊢
      exact h.called
  group closed h := by
    rw [withoutBlanks_append, withoutBlanks_append, withoutBlanks_cons rfl, withoutBlanks_cons rfl]
    exact (h.keep '(').append (.refl _)
  not _ hb h := by
    rw [withoutBlanks_append, withoutBlanks_cons rfl, withoutBlanks_cons rfl, withoutBlanks_of_blank hb,
      withoutBlanks_callText]
    exact h.called.keep '!'

/-! ## What rewriting keeps -/

/-- Both texts close what they open, up to the same number of parentheses, and have the same literals. -/
def Keeps (source written : List Char) : Prop :=
  literals written = literals source ∧ ∃ n, Rises n source ∧ Rises n written

namespace Keeps

theorem refl {n : Nat} {cs : List Char} (h : Rises n cs) : Keeps cs cs := ⟨rfl, n, h, h⟩

theorem plain {as as' : List Char} (h : IsPlain as) (h' : IsPlain as') : Keeps as as' :=
  ⟨(literals_plain h').trans (literals_plain h).symm, 0, .plain h, .plain h'⟩

theorem append {as as' bs bs' : List Char} (ha : Keeps as as') (hb : Keeps bs bs') : Keeps (as ++ bs) (as' ++ bs') := by
  obtain ⟨hla, m, ha, ha'⟩ := ha
  obtain ⟨hlb, n, hb, hb'⟩ := hb
  exact ⟨by rw [literals_append ha'.terminated, literals_append ha.terminated, hla, hlb],
    m + n, ha.append hb, ha'.append hb'⟩

theorem call {as as' : List Char} (h : Keeps as as') : Keeps as (callText as') := by
  obtain ⟨hl, n, ha, ha'⟩ := h
  exact ⟨(literals_callText ha'.terminated).trans hl, n, ha, ha'.call⟩

theorem parenthesized {as as' : List Char} (h : Keeps as as') :
    Keeps ('(' :: (as ++ [')'])) ('(' :: (as' ++ [')'])) := by
  obtain ⟨hl, n, ha, ha'⟩ := h
  exact ⟨by rw [literals_parenthesized ha.terminated, literals_parenthesized ha'.terminated, hl], n,
    ha.parenthesized, ha'.parenthesized⟩

theorem wrap {as as' : List Char} (h : Keeps as as') : Keeps as (wrapOperand as') := by
  rcases blank_or_solid as' with hb | ⟨pre, body, post, rfl, hpre, hbody, hpost⟩
  · rwa [wrapOperand_blank hb]
  obtain ⟨hl, n, ha, ha'⟩ := h
  obtain ⟨hrises, hliterals⟩ := ha'.trim hpre hpost
  have hk : Keeps as body := ⟨hliterals.symm.trans hl, n, ha, hrises⟩
  have hblank : ∀ {cs : List Char}, (∀ c ∈ cs, isBlank c) → Keeps [] cs := fun h =>
    .plain (List.forall_mem_nil _) (isPlain_of_blank h)
  rw [wrapOperand_eq hpre hbody hpost]
  simpa using (hblank hpre).append (hk.call.append (hblank hpost))

end Keeps

theorem respects_keeps : Respects Mark.IsWhole Keeps where
  nil := .refl (.plain (List.forall_mem_nil _))
  append := .append
  mark h := .refl h.rises
  wrap _ h := h.wrap
  group closed h := by
    cases closed with
    | true => exact h.parenthesized
    | false =>
      rw [if_neg (by decide), List.append_nil, List.append_nil]
      exact (Keeps.refl .opening).append h
  not _ hb h := by
    have hp : IsPlain ('!' :: _) := List.forall_mem_cons.2 ⟨by decide, isPlain_of_blank hb⟩
    exact (Keeps.plain hp (by decide : IsPlain ['!'])).append h.call

/-- Both texts have terminated literals, the same ones, and open and close the same parentheses. -/
structure Matches (source written : List Char) : Prop where
  terminated : Terminated source
  literals : literals written = literals source
  depth : ∀ d, depthAfter d (itemsOf written) = depthAfter d (itemsOf source)

namespace Matches

theorem terminated_written {as as' : List Char} (h : Matches as as') : Terminated as' := by
  rw [Terminated, h.literals]
  exact h.terminated

theorem append {as as' bs bs' : List Char} (ha : Matches as as') (hb : Matches bs bs') :
    Matches (as ++ bs) (as' ++ bs') where
  terminated := ha.terminated.append hb.terminated
  literals := by
    rw [literals_append ha.terminated_written, literals_append ha.terminated, ha.literals, hb.literals]
  depth d := by
    rw [itemsOf_append ha.terminated_written, itemsOf_append ha.terminated, depthAfter_append, depthAfter_append,
      ha.depth]
    exact congrArg _ (funext hb.depth)

end Matches

theorem Keeps.toMatches {as as' : List Char} (h : Keeps as as') : Matches as as' := by
  obtain ⟨hl, n, ha, ha'⟩ := h
  exact ⟨ha.terminated, hl, fun d => by rw [ha.depth, ha'.depth]⟩

/-! ## The rewriting as a whole -/

theorem wraps_withTruthiness (cs : List Char) : Wraps (withoutBlanks cs) (withoutBlanks (withTruthinessChars cs)) :=
  rel_withTruthiness respects_wraps id respects_wraps.append (.refl _) fun _ _ => .inr (.inr trivial)

theorem matches_withTruthiness {cs : List Char} (h : Terminated cs) : Matches cs (withTruthinessChars cs) :=
  rel_withTruthiness respects_keeps Keeps.toMatches Matches.append
    ⟨Rises.terminated_parenthesis (by decide), rfl, fun _ => rfl⟩ fun _ => isWhole_of_terminated h

theorem withTruthiness_of_not_hasConnective {cs : List Char} (h : ¬HasConnective cs) :
    withTruthinessChars cs = cs := by
  have hR : Respects (fun m => m ≠ .bang ∧ ∀ op, m ≠ .link op) fun as as' => as' = as := {
    nil := rfl
    append := fun ha hb => by rw [ha, hb]
    mark := fun _ => rfl
    wrap := fun hp _ => absurd rfl (hp.2 _)
    group := fun _ h => by rw [h]
    not := fun hp _ _ => absurd rfl hp.1 }
  exact rel_withTruthiness hR id hR.append rfl fun m hm => .inr (.inr (ne_connective h hm))

theorem toList_withTruthiness (s : String) : (withTruthiness s).toList = withTruthinessChars s.toList :=
  String.toList_ofList

/-- **Wrapping operands only inserts calls.** Blanks aside, the rule is kept with calls of `truthy` around stretches of
it. If its literals are terminated they are kept, and the parentheses are balanced if and only if they were. A rule
without connectives is kept as it is. -/
theorem withTruthiness_inserts (s : String) :
    Wraps (withoutBlanks s.toList) (withoutBlanks (withTruthiness s).toList) ∧
    (Terminated s.toList → literals (withTruthiness s).toList = literals s.toList ∧
      (Balanced (withTruthiness s).toList ↔ Balanced s.toList)) ∧
    (¬HasConnective s.toList → withTruthiness s = s) := by
  rw [toList_withTruthiness]
  refine ⟨wraps_withTruthiness s.toList, fun h => ?_, fun h => ?_⟩
  · have hm := matches_withTruthiness h
    exact ⟨hm.literals, by rw [Balanced, hm.depth, Balanced]⟩
  · rw [withTruthiness, withTruthiness_of_not_hasConnective h, String.ofList_toList]

/-- A rule with a group, a negation and a literal that looks like connectives, and a rule without connectives. -/
theorem withTruthiness_inserts_group :
    let s := "! (a || \"b) && \") && c"
    let t := "a != \"b && !c\""
    Terminated s.toList ∧ ¬HasConnective t.toList ∧
      withTruthiness s = "truthy(!truthy((truthy(a) || truthy(\"b) && \")))) && truthy(c)" ∧
      literals (withTruthiness s).toList = literals s.toList ∧
      (Balanced (withTruthiness s).toList ↔ Balanced s.toList) ∧ withTruthiness t = t := by
  intro s t
  have hs : Terminated s.toList := by
    have hi : itemsOf s.toList = "! (a || ".toList.map .char ++ .literal "\"b) && \"".toList ::
      ") && c".toList.map .char := by simp [s, itemsOf, spanText]
    have hl : literals s.toList = ["\"b) && \"".toList] := by
      rw [literals, hi]
      rfl
    have hc : Closes (spanText "b) && \"".toList).1 := (read_spanText (l := .evaluator) (d := 0) rfl).1
    rw [Terminated, hl]
    exact List.forall_mem_singleton.2 ⟨_, rfl, hc⟩
  have ht : ¬HasConnective t.toList := by
    have hi : itemsOf t.toList = [.char 'a', .char ' ', .char '!', .char '=', .char ' ',
      .literal "\"b && !c\"".toList] := by simp [t, itemsOf, spanText]
    rw [HasConnective, hi]
    rintro (⟨op, h⟩ | ⟨rest, h, hr⟩)
    · cases op <;> simp [Connective.symbol, List.infix_cons_iff] at h
    · simp [List.suffix_cons_iff] at h
      simp [h] at hr
  obtain ⟨hl, hb⟩ := (withTruthiness_inserts s).2.1 hs
  exact ⟨hs, ht, by cbv, hl, hb, (withTruthiness_inserts t).2.2 ht⟩

/-! ## Unclosed parentheses -/

/-- A rule that leaves two parentheses open. The evaluator refuses it. -/
def unclosed : String := "(true; !(true, true;"

/-- The same rule with the operand of its negation wrapped. -/
def unclosedRule : String := "(true; !truthy((true, true;)"

theorem fragments_unclosed : fragments unclosed.toList = .ok
    (let t := .word "true".toList
    [.mark '(', t, .mark ';', .blank, .mark '!', .mark '(', t, .mark ',', .blank, t, .mark ';']) := by
  simp [unclosed, fragments, readFragments, isMark, isBlank, extendWord]

theorem fragments_unclosedRule : fragments unclosedRule.toList = .ok
    (let t := .word "true".toList
    [.mark '(', t, .mark ';', .blank, .mark '!', .word truthyName.toList, .mark '(', .mark '(', t, .mark ',',
      .blank, t, .mark ';', .mark ')']) := by
  simp [unclosedRule, truthyName, fragments, readFragments, isMark, isBlank, extendWord]

/-- Wrapping turns a rule with unbalanced parentheses, which does not compile, into one that does: the call closes a
parenthesis within a sequence, and the evaluator forgets about the others. -/
theorem compile_unbalanced :
    Terminated unclosed.toList ∧ ¬Balanced unclosed.toList ∧ normalize unclosed = unclosed ∧
      Node.parse unclosed = .error .unmatchedOpen ∧ withTruthiness unclosed = unclosedRule ∧
      ¬Balanced unclosedRule.toList ∧ ∃ n, compile unclosed = .ok n := by
  have hi : itemsOf unclosed.toList = unclosed.toList.map .char := by simp [unclosed, itemsOf]
  have hr : itemsOf unclosedRule.toList = unclosedRule.toList.map .char := by simp [unclosedRule, itemsOf]
  have hn : normalize unclosed = unclosed := by cbv
  have ht : withTruthiness unclosed = unclosedRule := by cbv
  refine ⟨?_, ?_, hn, ?_, ht, ?_, ?_⟩
  · exact .of_literals (by rw [literals, hi, literals_chars])
  · rw [Balanced, hi]
    decide
  · rw [Node.parse, tokenize, fragments_unclosed]
    cbv
  · rw [Balanced, hr]
    decide
  · rw [compile, hn, ht, Node.parse, tokenize, fragments_unclosedRule]
    exact ⟨_, by cbv⟩

end FraudScreen.Expr
