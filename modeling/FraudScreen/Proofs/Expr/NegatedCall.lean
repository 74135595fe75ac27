import Mathlib
import FraudScreen.Proofs.Expr.CallArgument
import FraudScreen.Proofs.Expr.Connectives
import FraudScreen.Proofs.Expr.Regrouping

/-!
# Trees of negated calls

A negated call of `truthy` has tokens of its own, and so has what is around it (`exists_tokenize_not_call`). So a text
in which the argument of such a call has parentheses of its own has a tree if the text without them has one, and both
trees have the same value: `CallEnclosed.parse`.
-/
namespace FraudScreen.Expr

open Text Reader

/-! ## Tokens -/

/-- The text is refused for one of its literals, or it has a tree by itself, which is not empty. -/
inductive Readable (cs : List Char) : Prop where
  | refused {e : SyntaxError} (h : fragments cs = .error e)
  | parsed {fs : List Fragment} {ts : List Token} {operands : List Node} (hf : fragments cs = .ok fs)
      (ht : tokensOf fs = .ok ts) (hn : Node.ofTokens ts = .ok (.mk .group operands)) (hne : operands ≠ [])

section

variable {front : List Char} {e d : Nat} {b : Bool}
  (hread : read .evaluator (outside e false) front = some (outside d b)) (back : List Char)

include hread

theorem fragments_append_not (more : List Char) : fragments (front ++ '!' :: more) =
    (fragments front).bind fun fs => readFragments (.mark '!' :: fs.reverse) more :=
  readFragments_append_mark (by decide) (by decide) (by decide) more hread []

/-- Around a negated call there are tokens of their own, whatever the call. -/
theorem exists_tokenize_not_call : ∃ around : Except SyntaxError (List Token × List Token),
    ∀ {argument : List Char} {fs : List Fragment} {ts : List Token},
      Spells (callText argument) (.word truthyName.toList :: fs) (callTokens ts) →
        tokenize (front ++ '!' :: (callText argument ++ back)) =
          around.map fun (before, after) => before ++ .sign .not :: (callTokens ts ++ after) := by
  cases hf : fragments front with
  | error e =>
    refine ⟨.error e, fun _ => ?_⟩
    rw [tokenize, fragments_append_not hread, hf]
    rfl
  | ok fs =>
    obtain ⟨x, -, hx⟩ := tokensOf_append_mark (by decide : Separates '!') fs
    have hlexed {argument : List Char} {gs : List Fragment} {ts : List Token}
        (h : Spells (callText argument) (.word truthyName.toList :: gs) (callTokens ts)) :
        fragments (front ++ '!' :: (callText argument ++ back)) =
          (fragments back).map (fs ++ .mark '!' :: .word truthyName.toList :: gs ++ ·) := by
      have hm : EndsWord (.mark '!' :: fs.reverse) := trivial
      have hd := h.ends.append hm
      have hback := readFragments_append_done hd back []
      rw [List.nil_append] at hback
      rw [fragments_append_not hread, hf, Except.bind, h.lexed _ hm, hback]
      simp [fragments]
    have hcombined {argument : List Char} {gs : List Fragment} {ts : List Token}
        (h : Spells (callText argument) (.word truthyName.toList :: gs) (callTokens ts)) (more : List Fragment) :
        tokensOf (fs ++ .mark '!' :: .word truthyName.toList :: gs ++ more) =
          x.bind fun before => (tokensOf more).map fun after => before ++ .sign .not :: (callTokens ts ++ after) := by
      have hc := h.combined more
      rw [List.cons_append] at hc
      rw [List.append_assoc, List.cons_append, List.cons_append, hx, tokensOf_mark _ rfl, hc]
      cases x <;> cases tokensOf more <;> rfl
    refine ⟨(fragments back).bind fun gs => x.bind fun before => (tokensOf gs).map (before, ·), fun h => ?_⟩
    rw [tokenize, hlexed h]
    cases fragments back with
    | error e => rfl
    | ok hs =>
      refine (hcombined h hs).trans ?_
      cases x with
      | error e => rfl
      | ok before => cases ht : tokensOf hs <;> simp [Except.bind, Except.map, ht]

end

theorem readFragments_callText {done : List Fragment} (hd : EndsWord done) (cs more : List Char) :
    readFragments done (callText cs ++ more) =
      readFragments (.mark '(' :: .word truthyName.toList :: done) (cs ++ ')' :: more) := by
  have hp : readFragments (.word truthyName.toList :: done) ('(' :: (cs ++ ')' :: more)) = _ :=
    readFragments_mark (by decide) (by decide) (by decide) ..
  rw [callText, List.append_assoc, readFragments_word isName_truthy.ne_nil isName_truthy.wordPart hd, ← hp]
  simp

/-- A literal that the evaluator refuses is refused in an argument, too. -/
theorem tokenize_not_call_refused {front : List Char} {d d' : Nat} {b s : Bool}
    (hread : read .evaluator (outside d false) front = some (outside d' b)) (back : List Char) {argument : List Char}
    (ha : Reads false argument s) {e : SyntaxError} (he : fragments argument = .error e) :
    ∃ e', tokenize (front ++ '!' :: (callText argument ++ back)) = .error e' ∧
      tokenize (front ++ '!' :: (callText ('(' :: (argument ++ [')'])) ++ back)) = .error e' := by
  have hargument {done : List Fragment} (hd : EndsWord done) (more : List Char) :
      readFragments done (argument ++ ')' :: more) = .error e := by
    obtain ⟨b', -, hb⟩ := ha 0 false id
    have hown := readFragments_append_done hd argument []
    rw [List.nil_append, ← fragments, he] at hown
    rw [readFragments_append_mark (by decide) (by decide) (by decide) more hb, hown]
    rfl
  rw [tokenize, tokenize, fragments_append_not hread, fragments_append_not hread]
  cases fragments front with
  | error e' => exact ⟨e', rfl, rfl⟩
  | ok fs =>
    have hm : EndsWord (.mark '!' :: fs.reverse) := trivial
    have hopening (done : List Fragment) (more : List Char) : readFragments done ('(' :: more) = _ :=
      readFragments_mark (by decide) (by decide) (by decide) done more
    have hcall : EndsWord (.mark '(' :: .word truthyName.toList :: .mark '!' :: fs.reverse) := trivial
    have hgroup : EndsWord (.mark '(' :: .mark '(' :: .word truthyName.toList :: .mark '!' :: fs.reverse) := trivial
    refine ⟨e, ?_, ?_⟩
    · rw [Except.bind, readFragments_callText hm, hargument hcall]
      rfl
    · rw [Except.bind, readFragments_callText hm, List.cons_append, hopening, List.append_assoc,
        List.singleton_append, hargument hgroup]
      rfl

/-- **A second pair of parentheses around the argument of a negated call** changes neither whether the text has a tree
nor the value of the tree. -/
theorem CallEnclosed.parse {argument cs cs' : List Char} (h : CallEnclosed false argument cs cs') {s : Bool}
    (ha : Reads false argument s) (hr : Readable argument) :
    SameOutcome Regrouped (tokenize cs >>= Node.ofTokens) (tokenize cs' >>= Node.ofTokens) := by
  obtain ⟨⟨least, hf⟩, back⟩ := h
  rename_i front
  obtain ⟨d, b, hread⟩ := hf least false le_rfl id
  cases hr with
  | refused he =>
    obtain ⟨e, h1, h2⟩ := tokenize_not_call_refused hread back ha he
    rw [h1, h2]
    exact .error e
  | @parsed fs ts operands hf ht hn hne =>
    have hs := Spells.parenthesized (standsAlone_of_reads ha) hf ht
    have hcall : Spells (callText argument) _ (callTokens ts) := hs.named isName_truthy
    obtain ⟨around, htok⟩ := exists_tokenize_not_call hread back
    rw [htok hcall, htok hs.call]
    cases around with
    | error e => exact .error e
    | ok around =>
      obtain ⟨before, after⟩ := around
      have hr := ofTokens_regrouped hn hne after (before ++ [.sign .not, .name truthyName])
      simpa [callTokens, groupTokens, Except.map, ok_bind] using hr

end FraudScreen.Expr
