import FraudScreen.Expr.Tree
import FraudScreen.Proofs.Expr.Token

/-!
# Trees of groups

Tokens that make a tree by themselves never touch a group that was open before them. So between two
parentheses they make that tree, and it is added as one node to the group around them:
`addTokens_group`.
-/
namespace FraudScreen.Expr

open Node

/-! ## Groups further out -/

section

variable (below : List Node)

theorem foldTighter_append {goal : Op} : ∀ {rest : List Node} {top folded : Node} {left : List Node},
    foldTighter goal top rest = .ok (folded, left) →
      foldTighter goal top (rest ++ below) = .ok (folded, left ++ below)
  | [], _, _, _, h => by cases h
  | next :: rest, top, folded, left, h => by
    rw [List.cons_append, foldTighter]
    rw [foldTighter] at h
    by_cases hp : goal.precedence < next.op.precedence
    · rw [if_pos hp] at h ⊢
      exact foldTighter_append h
    · rw [if_neg hp] at h ⊢
      cases h
      rfl

theorem endSequences_append : ∀ {rest : List Node} {top : Node} {stack : List Node},
    endSequences top rest = .ok stack → endSequences top (rest ++ below) = .ok (stack ++ below)
  | rest, top, stack, h => by
    rw [endSequences.eq_def] at h ⊢
    by_cases hg : top.op.isGroup
    · rw [if_pos hg] at h ⊢
      by_cases ho : 1 < top.operands.length
      · rw [if_pos ho] at h
        cases h
      · rw [if_neg ho] at h ⊢
        cases h
        rfl
    · rw [if_neg hg] at h ⊢
      match rest with
      | [] => cases h
      | next :: rest => exact endSequences_append h

theorem addSeparator_append {op : Op} {top : Node} {rest stack : List Node}
    (h : addSeparator op top rest = .ok stack) :
    addSeparator op top (rest ++ below) = .ok (stack ++ below) := by
  unfold addSeparator at h ⊢
  by_cases hs : top.op.sameSequence op
  · rw [if_pos hs] at h ⊢
    cases h
    rfl
  rw [if_neg hs] at h ⊢
  by_cases hg : top.op.isGroup
  · rw [if_pos hg] at h ⊢
    cases h
    rfl
  rw [if_neg hg] at h ⊢
  by_cases hp : top.op.precedence < op.precedence
  · rw [if_pos hp] at h ⊢
    cases hl : top.operands.getLast? with
    | none =>
      rw [hl] at h
      cases h
    | some last =>
      rw [hl] at h
      cases h
      rfl
  · rw [if_neg hp] at h ⊢
    obtain ⟨⟨folded, left⟩, hf, rfl⟩ := map_eq_ok h
    rw [foldTighter_append below hf]
    rfl

theorem addNode_append {new : Node} {stack stack' : List Node} (h : addNode new stack = .ok stack') :
    addNode new (stack ++ below) = .ok (stack' ++ below) := by
  match stack with
  | [] => cases h
  | top :: rest =>
    rw [List.cons_append, addNode]
    rw [addNode] at h
    by_cases hs : new.op.isSequence
    · rw [if_pos hs] at h ⊢
      exact addSeparator_append below h
    rw [if_neg hs] at h ⊢
    by_cases ht : top.op.isSequence
    · rw [if_pos ht] at h ⊢
      cases hl : top.operands.getLast? with
      | none =>
        rw [hl] at h
        cases h
      | some last =>
        rw [hl] at h
        obtain ⟨grown, hg, rfl⟩ := map_eq_ok h
        simp only [hg]
        rfl
    · rw [if_neg ht] at h ⊢
      obtain ⟨grown, hg, rfl⟩ := map_eq_ok h
      rw [hg]
      rfl

theorem closeGroup_append {stack stack' : List Node} (h : closeGroup stack = .ok stack') :
    closeGroup (stack ++ below) = .ok (stack' ++ below) := by
  match stack with
  | [] | [_] => cases h
  | top :: next :: rest =>
    obtain ⟨ended, he, h⟩ := bind_eq_ok h
    have he' : endSequences top (next :: (rest ++ below)) = .ok (ended ++ below) := endSequences_append below he
    rw [List.cons_append, List.cons_append, closeGroup, he']
    match ended with
    | [] => cases h
    | group :: left => exact addNode_append below h

theorem addToken_append {after : Bool} {t : Token} {next : Option Token} {stack stack' : List Node}
    (h : addToken after t next stack = .ok stack') :
    addToken after t next (stack ++ below) = .ok (stack' ++ below) := by
  match t with
  | .const _ | .name _ => exact addNode_append below h
  | .sign s =>
    cases s with
    | opening =>
      cases h
      rfl
    | closing => exact closeGroup_append below h
    | _ => exact addNode_append below h

/-- A name in front of a closing parenthesis is looked up, as at the end. -/
theorem addToken_closing (after : Bool) (t : Token) (stack : List Node) :
    addToken after t (some (.sign .closing)) stack = addToken after t none stack := by
  cases t <;> rfl

/-- Tokens leave the groups further out alone, up to a closing parenthesis without a partner. -/
theorem addTokens_append (more : List Token) : ∀ {ts : List Token} {after : Bool} {stack stack' : List Node},
    addTokens after stack ts = .ok stack' →
      addTokens after (stack ++ below) (ts ++ .sign .closing :: more) =
        (do addTokens true (← closeGroup (stack' ++ below)) more)
  | [], after, stack, stack', h => by
    cases h
    rfl
  | t :: ts, after, stack, stack', h => by
    obtain ⟨stack₁, h₁, h⟩ := bind_eq_ok h
    have hn : addToken after t (ts ++ .sign .closing :: more).head? (stack ++ below) = .ok (stack₁ ++ below) := by
      refine addToken_append below ?_
      cases ts with
      | nil => exact (addToken_closing after t stack).trans h₁
      | cons => exact h₁
    rw [List.cons_append, addTokens, hn]
    exact addTokens_append more h

end

/-! ## A group as a node -/

theorem isGroup_of_endSequences : ∀ {rest : List Node} {top group : Node} {left : List Node},
    endSequences top rest = .ok (group :: left) → group.op.isGroup
  | rest, top, group, left, h => by
    rw [endSequences.eq_def] at h
    by_cases hg : top.op.isGroup
    · rw [if_pos hg] at h
      by_cases ho : 1 < top.operands.length
      · rw [if_pos ho] at h
        cases h
      · rw [if_neg ho] at h
        cases h
        exact hg
    · rw [if_neg hg] at h
      match rest with
      | [] => cases h
      | next :: rest => exact isGroup_of_endSequences h

theorem ofTokens_eq_ok {ts : List Token} {root : Node} (h : ofTokens ts = .ok root) :
    ∃ top rest, addTokens false [emptyGroup] ts = .ok (top :: rest) ∧ endSequences top rest = .ok [root] := by
  obtain ⟨stack, hs, h⟩ := bind_eq_ok h
  match stack, h with
  | top :: rest, h =>
    obtain ⟨ended, he, h⟩ := bind_eq_ok h
    match ended, h with
    | [root'], h =>
      cases h
      exact ⟨top, rest, hs, he⟩

theorem isGroup_of_ofTokens {ts : List Token} {root : Node} (h : ofTokens ts = .ok root) : root.op.isGroup := by
  obtain ⟨_, _, _, he⟩ := ofTokens_eq_ok h
  exact isGroup_of_endSequences he

/-- **Tokens in parentheses are added as the tree that they make by themselves.** -/
theorem addTokens_group {ts : List Token} {root : Node} (h : ofTokens ts = .ok root) (after : Bool)
    (around : Node) (below : List Node) (more : List Token) :
    addTokens after (around :: below) (.sign .opening :: (ts ++ .sign .closing :: more)) =
      (do addTokens true (← addNode root (around :: below)) more) := by
  obtain ⟨top, rest, hs, he⟩ := ofTokens_eq_ok h
  have ha : addTokens false (emptyGroup :: around :: below) (ts ++ .sign .closing :: more) = _ :=
    addTokens_append (around :: below) more hs
  have hc : closeGroup (top :: rest ++ around :: below) = addNode root (around :: below) := by
    have he := endSequences_append (around :: below) he
    cases rest with
    | nil =>
      rw [List.nil_append] at he
      rw [List.singleton_append, closeGroup, he]
      rfl
    | cons next rest =>
      rw [List.cons_append] at he
      rw [List.cons_append, List.cons_append, closeGroup, he]
      rfl
  rw [addTokens]
  change addTokens false (emptyGroup :: around :: below) (ts ++ .sign .closing :: more) = _
  rw [ha, hc]

end FraudScreen.Expr
