import Mathlib
import FraudScreen.Proofs.Expr.Operands
import FraudScreen.Proofs.Expr.Token

/-!
# The meaning of `and`, `or` and `not`

Operands joined by connectives give calls of `truthy` joined by signs, which make a chain. `compile_connected`
puts the layers together: such a rule compiles, and its value is the verdict on the operands.
-/
namespace FraudScreen.Expr

open Text

/-! ## Tokens of operands -/

theorem readFragments_blank (done : List Fragment) (more : List Char) :
    readFragments done (' ' :: more) = readFragments (.blank :: done) more :=
  readFragments_char (by decide) (fun e => absurd e (by decide)) done

theorem isName_truthy : IsName truthyName.toList truthyName where
  ne_nil := by decide
  wordPart := List.all_eq_true.1 (by decide)
  classified := rfl

/-- A text that is read apart from its surroundings, as the argument of a call. -/
theorem Spells.call {cs : List Char} {fs : List Fragment} {ts : List Token} (h : Spells cs fs ts) :
    Spells (callText cs) (.word truthyName.toList :: .mark '(' :: (fs ++ [.mark ')'])) (callTokens ts) :=
  h.enclosed.named isName_truthy

theorem Spells.not {cs : List Char} {fs : List Fragment} {ts : List Token}
    (h : Spells cs (.word truthyName.toList :: fs) ts) :
    Spells ('!' :: cs) (.mark '!' :: .word truthyName.toList :: fs) (.sign .not :: ts) where
  lexed done hd more := by
    have hm : EndsWord (.mark '!' :: done) := trivial
    rw [List.cons_append, readFragments_mark (by decide) (by decide) (by decide), h.lexed _ hm]
    simp
  ends := by
    have he := h.ends
    rw [List.reverse_cons]
    exact he.append trivial
  combined more := by
    rw [List.cons_append, List.cons_append, tokensOf_mark _ rfl, ← List.cons_append, h.combined]
    cases tokensOf more <;> rfl

/-- A connective between blanks gives the sign of the connective. Without the blank after it, an equals sign could
join the sign. -/
theorem Spells.spaced (op : Connective) : ∃ fs, Spells (FraudScreen.Expr.spaced op) fs [.sign op.sign] := by
  refine ⟨.blank :: (op.symbol.map .mark ++ [.blank]), fun done _ more => ?_, ?_, fun more => ?_⟩
  · rw [FraudScreen.Expr.spaced, List.cons_append, readFragments_blank]
    cases op with
    | and =>
      change readFragments _ ('&' :: '&' :: ' ' :: more) = _
      rw [readFragments_mark (by decide) (by decide) (by decide),
        readFragments_mark (by decide) (by decide) (by decide), readFragments_blank]
      rfl
    | or =>
      change readFragments _ ('|' :: '|' :: ' ' :: more) = _
      rw [readFragments_mark (by decide) (by decide) (by decide),
        readFragments_mark (by decide) (by decide) (by decide), readFragments_blank]
      rfl
  · cases op <;> trivial
  · cases op with
    | and =>
      change tokensOf (.blank :: .mark '&' :: .mark '&' :: .blank :: more) = _
      rw [tokensOf, tokensOf_mark _ rfl, tokensOf]
      rfl
    | or =>
      change tokensOf (.blank :: .mark '|' :: .mark '|' :: .blank :: more) = _
      rw [tokensOf, tokensOf_mark _ rfl, tokensOf]
      rfl

/-- The tokens of a rule that compiles. -/
theorem exists_tokens_of_compile {rule : String} {n : Node} (h : compile rule = .ok n) :
    ∃ fs ts, fragments (withTruthinessChars (normalizeAfter none rule.toList)) = .ok fs ∧ tokensOf fs = .ok ts ∧
      Node.ofTokens ts = .ok n := by
  rw [compile, Node.parse, withTruthiness, normalize, String.toList_ofList, String.toList_ofList] at h
  obtain ⟨ts, ht, hn⟩ := bind_eq_ok h
  obtain ⟨fs, hf, ht⟩ := bind_eq_ok ht
  exact ⟨fs, ts, hf, ht, hn⟩

namespace Operand

/-- The tokens of an operand by itself. -/
theorem tokens_of_compiles (o : Operand) : ∃ fs ts, fragments (withTruthinessChars o.normal) = .ok fs ∧
    tokensOf fs = .ok ts ∧ Node.ofTokens ts = .ok o.node :=
  exists_tokens_of_compile o.compiles

theorem truth_eq (o : Operand) (b : Bindings) :
    o.truth b = (do (← o.node.eval b).truth).map fun t => if o.negated then !t else t := by
  unfold truth
  cases o.node.eval b with
  | error e => rfl
  | ok v =>
    rw [ok_bind, ok_bind]
    cases v.truth <;> rfl

/-- An operand has tokens and a tree of its own, and a call of the tree has its truth value. -/
theorem exists_parsed (o : Operand) : ∃ p : Parsed,
    (∃ fs, Spells o.rewritten fs p.tokens) ∧ ∀ b, Judges b (truthyCall p.node) (o.truth b) := by
  obtain ⟨fs, ts, hf, ht, hn⟩ := o.tokens_of_compiles
  have hs := Spells.parenthesized (standsAlone_withTruthiness o.standsAlone_normal) hf ht
  have hg := ofTokens_group hn
  have hj : ∀ b, Judges b (truthyCall (.mk .group [o.node])) (do (← o.node.eval b).truth) := by
    intro b
    rw [Judges, eval_truthyCall, eval_group]
    cases o.node.eval b with
    | error e => rfl
    | ok v => cases hv : v.truth <;> simp only [ok_bind, hv] <;> rfl
  cases ho : o.negated with
  | false =>
    refine ⟨⟨_, _, hg⟩, ⟨_, by rwa [rewritten, operandText, ho]⟩, fun b => ?_⟩
    rw [truth_eq, ho]
    refine (hj b).trans ?_
    cases (do (← o.node.eval b).truth) <;> rfl
  | true =>
    refine ⟨⟨_, _, ofTokens_not hg⟩, ⟨_, by rw [rewritten, operandText, ho]; exact hs.call.not⟩, fun b => ?_⟩
    rw [truth_eq, ho]
    exact (hj b).not.group.truthyCall

end Operand

/-- A rule of operands gives the calls of their tokens, with signs between them. -/
theorem spells_rewrittenRule {parsed : Operand → Parsed}
    (h : ∀ o, ∃ fs, Spells o.rewritten fs (parsed o).tokens) (first : Operand)
    (rest : List (Connective × Operand)) :
    ∃ fs, Spells (rewrittenRule first rest) fs
      (callTokens (parsed first).tokens ++ rest.flatMap fun q => linkTokens q.1 (parsed q.2).tokens) := by
  have hrest : ∃ fs, Spells (rest.flatMap fun q => spaced q.1 ++ callText q.2.rewritten) fs
      (rest.flatMap fun q => linkTokens q.1 (parsed q.2).tokens) := by
    induction rest with
    | nil => exact ⟨[], .nil⟩
    | cons q rest ih =>
      obtain ⟨fs, hfs⟩ := ih
      obtain ⟨gs, hgs⟩ := h q.2
      obtain ⟨ls, hls⟩ := Spells.spaced q.1
      exact ⟨_, (hls.append hgs.call).append hfs⟩
  obtain ⟨fs, hfs⟩ := h first
  obtain ⟨gs, hgs⟩ := hrest
  exact ⟨_, hfs.call.append hgs⟩

/-! ## Rules of operands mean what they say -/

/-- **Operands joined by connectives** compile to a tree that evaluates to their verdict. -/
theorem compile_connected (first : Operand) {rest : List (Connective × Operand)} (h : rest ≠ []) :
    ∃ n, compile (connected first rest) = .ok n ∧ ∀ b, n.eval b = verdict b first rest := by
  obtain ⟨parsed, hp⟩ := Classical.axiomOfChoice Operand.exists_parsed
  obtain ⟨fs, hfs⟩ := spells_rewrittenRule (fun o => (hp o).1) first rest
  have hc := ofTokens_chain (parsed first) (rest.map fun q => (q.1, parsed q.2))
  rw [List.flatMap_map, List.map_map] at hc
  have hn : compile (connected first rest) =
      .ok (.mk .group [chain none (truthyCall (parsed first).node)
        (rest.map fun q => (q.1, truthyCall (parsed q.2).node))]) := by
    rw [compile, Node.parse, withTruthiness, normalize, String.toList_ofList, String.toList_ofList,
      normalizeAfter_connected, withTruthinessChars_normalRule first h, hfs.tokenize]
    exact hc
  refine ⟨_, hn, fun b => ?_⟩
  have hnone : JudgesComplete b none (.ok false) := rfl
  refine (judges_chain (fun o => (hp o).2 b) rest none hnone ((hp first).2 b)).group.trans ?_
  rw [verdict]
  cases first.truth b with
  | error e => rfl
  | ok t =>
    cases truths (Operand.truth b) rest with
    | error e => rfl
    | ok ts => simp only [ok_bind, judge_eq, Bool.false_or]; rfl

/-! ## Constants as operands -/

section

variable (t : Bool)

theorem fragments_bool : fragments (toString t).toList = .ok [.word (toString t).toList] := by
  cases t with
  | false => simp [toString, fragments, readFragments, isMark, isBlank, extendWord]
  | true => simp [toString, fragments, readFragments, isMark, isBlank, extendWord]

theorem tokensOf_bool : tokensOf [.word (toString t).toList] = .ok [.const (.bool t)] := by
  cases t <;> cbv

theorem compile_bool : compile (toString t) = .ok (.mk .group [.leaf (.const (.bool t))]) := by
  have hr : (withTruthiness (normalize (toString t))).toList = (toString t).toList := by cases t <;> cbv
  rw [compile, Node.parse, tokenize, hr, fragments_bool, ok_bind, tokensOf_bool]
  rfl

/-- A constant as an operand. -/
def Operand.ofBool (negated : Bool) : Operand :=
  ⟨negated, toString t, _, by cases t <;> decide, compile_bool t⟩

theorem Operand.truth_ofBool (negated : Bool) (b : Bindings) :
    (ofBool t negated).truth b = .ok (negated != t) := by
  cases negated <;> cases t <;> rfl

end

/-- `and` binds tighter than `or`. -/
theorem compile_connected_or_and :
    [(Connective.or, Operand.ofBool true true), (.and, .ofBool false false)] ≠ [] ∧ ∃ n,
      compile "(true) or not (true) and (false)" = .ok n ∧ ∀ b, n.eval b = .ok (.bool true) := by
  have hs : connected (.ofBool true false) [(.or, .ofBool true true), (.and, .ofBool false false)] =
      "(true) or not (true) and (false)" := by decide
  have hne := List.cons_ne_nil (Connective.or, Operand.ofBool true true) [(.and, .ofBool false false)]
  obtain ⟨n, hn, he⟩ := compile_connected (.ofBool true false) hne
  refine ⟨hne, n, hs ▸ hn, fun b => (he b).trans ?_⟩
  simp only [verdict, truths, List.mapM_cons, Operand.truth_ofBool]
  rfl

/-! ## Unpaired parentheses -/

/-- An expression that compiles although it leaves a parenthesis open, since a sequence ends in it. -/
def unpaired : String := "true; (true, true; true; true"

/-- A rule with `unpaired` as an operand, as the evaluator reads it. -/
def unpairedRule : String := "(true; truthy((true, true; true; true)) && truthy((true))"

theorem fragments_unpaired : fragments unpaired.toList = .ok
    (let t := .word "true".toList
    [t, .mark ';', .blank, .mark '(', t, .mark ',', .blank, t, .mark ';', .blank, t, .mark ';', .blank, t]) := by
  simp [unpaired, fragments, readFragments, isMark, isBlank, extendWord]

theorem fragments_unpairedRule : fragments unpairedRule.toList = .ok
    (let t := .word "true".toList
    let call := .word truthyName.toList
    [.mark '(', t, .mark ';', .blank, call, .mark '(', .mark '(', t, .mark ',', .blank, t, .mark ';',
      .blank, t, .mark ';', .blank, t, .mark ')', .mark ')', .blank, .mark '&', .mark '&', .blank, call,
      .mark '(', .mark '(', t, .mark ')', .mark ')']) := by
  simp [unpairedRule, truthyName, fragments, readFragments, isMark, isBlank, extendWord]

theorem tokenize_unpaired : tokenize unpaired.toList = .ok
    (let t := .const (.bool true)
    [t, .sign .semicolon, .sign .opening, t, .sign .comma, t, .sign .semicolon, t, .sign .semicolon, t]) := by
  rw [tokenize, fragments_unpaired, ok_bind]
  cbv

theorem tokenize_unpairedRule : tokenize unpairedRule.toList = .ok
    (let t := .const (.bool true)
    [.sign .opening, t, .sign .semicolon, .name truthyName, .sign .opening, .sign .opening, t, .sign .comma, t,
      .sign .semicolon, t, .sign .semicolon, t, .sign .closing, .sign .closing, .sign .and, .name truthyName,
      .sign .opening, .sign .opening, t, .sign .closing, .sign .closing]) := by
  rw [tokenize, fragments_unpairedRule, ok_bind]
  cbv

/-- Joined with another operand, `unpaired` no longer compiles: its parenthesis takes the one that should
close the operand. -/
theorem compile_connected_unpaired :
    (∀ e ∈ [unpaired, "true"], (∀ c ∈ e.toList, c ≠ '/' ∧ c ≠ '"' ∧ c ≠ '\'') ∧
      ∀ b, (compile e).map (·.eval b) = .ok (.ok (.bool true))) ∧
    compile ("(" ++ unpaired ++ ") and (true)") = .error .operandAfterOperand := by
  have ho : (withTruthiness (normalize unpaired)).toList = unpaired.toList := by cbv
  have hc : (withTruthiness (normalize ("(" ++ unpaired ++ ") and (true)"))).toList = unpairedRule.toList := by
    cbv
  refine ⟨fun e he => ⟨?_, fun b => ?_⟩, ?_⟩
  · obtain rfl | rfl : e = unpaired ∨ e = "true" := by simpa using he
    · simp [unpaired]
    · simp
  · obtain rfl | rfl : e = unpaired ∨ e = "true" := by simpa using he
    · rw [compile, Node.parse, ho, tokenize_unpaired]
      rfl
    · have ht : compile "true" = _ := compile_bool true
      rw [ht]
      rfl
  · rw [compile, Node.parse, hc, tokenize_unpairedRule]
    rfl

end FraudScreen.Expr
