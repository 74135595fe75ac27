import FraudScreen.Expr.Eval
import FraudScreen.Proofs.Expr.Tree

/-!
# Chains of connectives

Calls joined by `&&` and `||` make a tree in which the runs of `&&` hang below the `||` between them, both
growing to the left: `ofTokens_chain`. Its value is the verdict on the values of the calls: `judges_chain`, and
`judge_eq` says what the verdict is.
-/
namespace FraudScreen.Expr

open Node

theorem ok_bind {ε α β : Type} (a : α) (f : α → Except ε β) : (Except.ok a >>= f) = f a := rfl

/-! ## Calls -/

/-- The tokens of a call of `truthy`, given those of the argument. -/
def callTokens (ts : List Token) : List Token :=
  .name truthyName :: .sign .opening :: (ts ++ [.sign .closing])

/-- A call of `truthy`. -/
def truthyCall (argument : Node) : Node := .mk (.call truthyName) [argument]

/-- A group in which an operand is missing, with the group that any operand makes of it. -/
structure Hole (g : Node) (fill : Node → Node) : Prop where
  group : g.op = .group
  filled : ∀ n, (fill n).op = .group
  call : Node.insert (leaf (.call truthyName)) true g = .ok (fill (leaf (.call truthyName)))
  argument : ∀ operands, Node.insert (.mk .group operands) true (fill (leaf (.call truthyName))) =
    .ok (fill (truthyCall (.mk .group operands)))

theorem addNode_of_group {new g : Node} (hn : new.op.isSequence = false) (hg : g.op = .group)
    (below : List Node) : addNode new (g :: below) = (Node.insert new true g).map (· :: below) := by
  rw [addNode, hn, hg]
  rfl

theorem eq_group {n : Node} (h : n.op.isGroup) : ∃ operands, n = .mk .group operands := by
  obtain ⟨op, operands⟩ := n
  cases op <;> first | exact ⟨operands, rfl⟩ | cases h

/-- A call fills the hole. -/
theorem addTokens_call {g : Node} {fill : Node → Node} (hole : Hole g fill) {ts : List Token} {root : Node}
    (h : ofTokens ts = .ok root) (after : Bool) (below : List Node) (more : List Token) :
    addTokens after (g :: below) (callTokens ts ++ more) =
      addTokens true (fill (truthyCall root) :: below) more := by
  obtain ⟨operands, rfl⟩ := eq_group (isGroup_of_ofTokens h)
  have hc : addToken after (.name truthyName) (some (.sign .opening)) (g :: below) =
      .ok (fill (leaf (.call truthyName)) :: below) := by
    change addNode (leaf (.call truthyName)) (g :: below) = _
    rw [addNode_of_group rfl hole.group, hole.call]
    rfl
  have ha : addNode (.mk .group operands) (fill (leaf (.call truthyName)) :: below) =
      .ok (fill (truthyCall (.mk .group operands)) :: below) := by
    rw [addNode_of_group rfl (hole.filled _), hole.argument]
    rfl
  have hg := addTokens_group h true (fill (leaf (.call truthyName))) below more
  have ht : callTokens ts ++ more = .name truthyName :: .sign .opening :: (ts ++ .sign .closing :: more) := by
    simp [callTokens]
  rw [ht, addTokens, List.head?_cons, hc, ok_bind]
  rw [ha, ok_bind] at hg
  exact hg

theorem Hole.start : Hole emptyGroup fun n => .mk .group [n] where
  group := rfl
  filled _ := rfl
  call := rfl
  argument _ := rfl

theorem Hole.not : Hole (.mk .group [leaf .not]) fun n => .mk .group [.mk .not [n]] where
  group := rfl
  filled _ := rfl
  call := rfl
  argument _ := rfl

/-- The tree of the disjuncts that are complete, if there are any, and the run of `&&` after them. -/
def disjunction (complete : Option Node) (run : Node) : Node :=
  match complete with
  | none => run
  | some d => .mk .or [d, run]

theorem Hole.and (complete : Option Node) (run : Node) :
    Hole (.mk .group [disjunction complete (.mk .and [run])]) fun n =>
      .mk .group [disjunction complete (.mk .and [run, n])] where
  group := rfl
  filled _ := rfl
  call := by cases complete <;> rfl
  argument _ := by cases complete <;> rfl

theorem Hole.or (d : Node) : Hole (.mk .group [.mk .or [d]]) fun n => .mk .group [.mk .or [d, n]] where
  group := rfl
  filled _ := rfl
  call := rfl
  argument _ := rfl

/-! ## Connectives -/

/-- A node that stands for a run of `&&`. -/
def IsRun (n : Node) : Prop := n.op = .and ∨ ∃ name, n.op = .call name

section

variable {run : Node} (h : IsRun run) (complete : Option Node)

include h

theorem insert_and : Node.insert (leaf .and) true (.mk .group [disjunction complete run]) =
    .ok (.mk .group [disjunction complete (.mk .and [run])]) := by
  obtain ⟨op, operands⟩ := run
  rcases h with h | ⟨name, h⟩
  · obtain rfl : op = .and := h
    cases complete <;> rfl
  · obtain rfl : op = .call name := h
    cases complete <;> rfl

theorem insert_or : Node.insert (leaf .or) true (.mk .group [disjunction complete run]) =
    .ok (.mk .group [.mk .or [disjunction complete run]]) := by
  obtain ⟨op, operands⟩ := run
  rcases h with h | ⟨name, h⟩
  · obtain rfl : op = .and := h
    cases complete <;> rfl
  · obtain rfl : op = .call name := h
    cases complete <;> rfl

end

namespace Connective

def sign : Connective → Sign
  | and => .and
  | or => .or

/-- The operation of a connective. -/
def op : Connective → Op
  | and => .and
  | or => .or

theorem addToken_sign (c : Connective) (after : Bool) (next : Option Token) (stack : List Node) :
    addToken after (.sign c.sign) next stack = addNode (leaf c.op) stack := by
  cases c <;> rfl

end Connective

/-- The complete disjuncts and the run after them, with one more operand. -/
def extend (complete : Option Node) (run : Node) : Connective × Node → Option Node × Node
  | (.and, n) => (complete, .mk .and [run, n])
  | (.or, n) => (some (disjunction complete run), n)

/-- The tree of a chain of operands. -/
def chain (complete : Option Node) (run : Node) : List (Connective × Node) → Node
  | [] => disjunction complete run
  | q :: rest => chain (extend complete run q).1 (extend complete run q).2 rest

/-- A connective and a call after it. -/
def linkTokens (op : Connective) (ts : List Token) : List Token := .sign op.sign :: callTokens ts

theorem isRun_extend (complete : Option Node) (run : Node) (op : Connective) (n : Node) :
    IsRun (extend complete run (op, truthyCall n)).2 := by
  cases op with
  | and => exact .inl rfl
  | or => exact .inr ⟨_, rfl⟩

theorem addTokens_link {run : Node} (hr : IsRun run) (complete : Option Node) (op : Connective)
    {ts : List Token} {n : Node} (hn : ofTokens ts = .ok n) (more : List Token) :
    addTokens true [.mk .group [disjunction complete run]] (linkTokens op ts ++ more) =
      addTokens true [.mk .group [disjunction (extend complete run (op, truthyCall n)).1
        (extend complete run (op, truthyCall n)).2]] more := by
  rw [linkTokens, List.cons_append, addTokens, op.addToken_sign]
  cases op with
  | and =>
    have ha : addNode (leaf .and) [.mk .group [disjunction complete run]] =
        .ok [.mk .group [disjunction complete (.mk .and [run])]] := by
      rw [addNode_of_group rfl rfl, insert_and hr]
      rfl
    rw [Connective.op, ha, ok_bind]
    exact addTokens_call (.and complete run) hn false [] more
  | or =>
    have ha : addNode (leaf .or) [.mk .group [disjunction complete run]] =
        .ok [.mk .group [.mk .or [disjunction complete run]]] := by
      rw [addNode_of_group rfl rfl, insert_or hr]
      rfl
    rw [Connective.op, ha, ok_bind]
    exact addTokens_call (.or (disjunction complete run)) hn false [] more

/-- Tokens of an operand with their tree. -/
structure Parsed where
  tokens : List Token
  node : Node
  parses : ofTokens tokens = .ok node

theorem addTokens_links : ∀ (rest : List (Connective × Parsed)) (complete : Option Node) {run : Node}, IsRun run →
    addTokens true [.mk .group [disjunction complete run]] (rest.flatMap fun q => linkTokens q.1 q.2.tokens) =
      .ok [.mk .group [chain complete run (rest.map fun q => (q.1, truthyCall q.2.node))]]
  | [], _, _, _ => rfl
  | (op, p) :: rest, complete, run, hr => by
    rw [List.flatMap_cons, addTokens_link hr complete op p.parses]
    exact addTokens_links rest _ (isRun_extend complete run op p.node)

/-- **The tokens of a chain make its tree.** -/
theorem ofTokens_chain (first : Parsed) (rest : List (Connective × Parsed)) :
    ofTokens (callTokens first.tokens ++ rest.flatMap fun q => linkTokens q.1 q.2.tokens) =
      .ok (.mk .group [chain none (truthyCall first.node) (rest.map fun q => (q.1, truthyCall q.2.node))]) := by
  have hl : addTokens true [.mk .group [truthyCall first.node]] _ = _ :=
    addTokens_links rest none (.inr ⟨truthyName, rfl⟩)
  rw [ofTokens, addTokens_call .start first.parses, hl]
  rfl

/-! ## Operands -/

theorem ofTokens_group {ts : List Token} {root : Node} (h : ofTokens ts = .ok root) :
    ofTokens (.sign .opening :: (ts ++ [.sign .closing])) = .ok (.mk .group [root]) := by
  obtain ⟨operands, rfl⟩ := eq_group (isGroup_of_ofTokens h)
  rw [ofTokens, addTokens_group h false emptyGroup [] []]
  rfl

theorem ofTokens_not {ts : List Token} {root : Node} (h : ofTokens ts = .ok root) :
    ofTokens (.sign .not :: callTokens ts) = .ok (.mk .group [.mk .not [truthyCall root]]) := by
  have hn : addToken false (.sign .not) (callTokens ts).head? [emptyGroup] = .ok [.mk .group [leaf .not]] := rfl
  have hc := addTokens_call .not h (Token.sign .not).endsOperand [] []
  rw [List.append_nil] at hc
  rw [ofTokens, addTokens, hn, ok_bind, hc]
  rfl

/-! ## Values -/

/-- The truth value of a value: a boolean is its own, a number is true if it is not zero. -/
def Value.truth? : Value → Option Bool
  | .bool t => some t
  | .float x => some (x != 0)
  | .int n => some (n != 0)
  | _ => none

/-- The truth value of a value, or the failure of asking for one. -/
def Value.truth (v : Value) : Eval Bool :=
  match v.truth? with
  | some t => .ok t
  | none => fail (.unexpected (.oneType .bool) v)

section

variable (b : Bindings) (n m : Node)

theorem eval_group : (Node.mk .group [n]).eval b = n.eval b := by
  rw [Node.eval, evalAll, evalAll]
  cases n.eval b <;> rfl

theorem eval_truthyCall : (truthyCall n).eval b = (do return .bool (← (← n.eval b).truth)) := by
  rw [truthyCall, Node.eval, evalAll, evalAll]
  cases n.eval b with
  | error e => rfl
  | ok v => cases v <;> rfl

end

/-- The truth value of a node whose value is one. -/
def Judges (b : Bindings) (n : Node) (t : Eval Bool) : Prop := n.eval b = t.map .bool

section

variable {b : Bindings} {n m : Node} {t u : Eval Bool}

theorem Judges.truthyCall (h : Judges b n t) : Judges b (truthyCall n) t := by
  rw [Judges, eval_truthyCall, h]
  cases t <;> rfl

theorem Judges.group (h : Judges b n t) : Judges b (.mk .group [n]) t := (eval_group b n).trans h

theorem Judges.not (h : Judges b n t) : Judges b (.mk .not [n]) (t.map (!·)) := by
  rw [Judges, Node.eval, evalAll, evalAll, h]
  cases t <;> rfl

theorem Judges.and (hn : Judges b n t) (hm : Judges b m u) :
    Judges b (.mk .and [n, m]) (do return (← t) && (← u)) := by
  rw [Judges, Node.eval, evalAll, evalAll, evalAll, hn, hm]
  cases t <;> cases u <;> rfl

theorem Judges.or (hn : Judges b n t) (hm : Judges b m u) :
    Judges b (.mk .or [n, m]) (do return (← t) || (← u)) := by
  rw [Judges, Node.eval, evalAll, evalAll, evalAll, hn, hm]
  cases t <;> cases u <;> rfl

end

/-! ## Values of chains -/

/-- The verdict on truth values joined by connectives, `&&` before `||`: given what the complete runs and the
run under way come to. -/
def judge (complete run : Bool) : List (Connective × Bool) → Bool
  | [] => complete || run
  | (.and, t) :: rest => judge complete (run && t) rest
  | (.or, t) :: rest => judge (complete || run) t rest

/-- The maximal runs of truth values joined by `and`. -/
def runs (first : Bool) : List (Connective × Bool) → List (List Bool)
  | [] => [[first]]
  | (.and, t) :: rest =>
    match runs t rest with
    | [] => [[first]]
    | run :: others => (first :: run) :: others
  | (.or, t) :: rest => [first] :: runs t rest

/-- What follows the first truth value does not depend on it. -/
theorem runs_eq : ∀ rest : List (Connective × Bool), ∃ run others, ∀ t, runs t rest = (t :: run) :: others
  | [] => ⟨[], [], fun _ => rfl⟩
  | (.and, t) :: rest => by
    obtain ⟨run, others, h⟩ := runs_eq rest
    exact ⟨t :: run, others, fun u => by rw [runs, h]⟩
  | (.or, t) :: rest => ⟨[], runs t rest, fun _ => rfl⟩

/-- **The verdict is the disjunction over the runs of the conjunction of each.** -/
theorem judge_eq : ∀ (rest : List (Connective × Bool)) (complete first : Bool),
    judge complete first rest = (complete || (runs first rest).any (·.all id))
  | [], complete, first => by simp [judge, runs]
  | (.and, t) :: rest, complete, first => by
    obtain ⟨run, others, h⟩ := runs_eq rest
    rw [judge, judge_eq rest, runs, h, h]
    simp [Bool.and_assoc]
  | (.or, t) :: rest, complete, first => by
    rw [judge, judge_eq rest, runs]
    simp [Bool.or_assoc]

/-- The truth value of the complete disjuncts, which is false if there are none. -/
def JudgesComplete (b : Bindings) (complete : Option Node) (t : Eval Bool) : Prop :=
  match complete with
  | none => t = .ok false
  | some d => Judges b d t

section

variable {b : Bindings} {complete : Option Node} {run : Node} {c r : Eval Bool}

theorem judges_disjunction (hc : JudgesComplete b complete c) (hr : Judges b run r) :
    Judges b (disjunction complete run) (do return (← c) || (← r)) := by
  cases complete with
  | none =>
    obtain rfl : c = .ok false := hc
    rw [disjunction, Judges, hr]
    cases r <;> rfl
  | some d => exact Judges.or hc hr

variable {α : Type} {node : α → Node} {truth : α → Eval Bool}

/-- The truth values of operands, from left to right. -/
def truths (truth : α → Eval Bool) (rest : List (Connective × α)) : Eval (List (Connective × Bool)) :=
  rest.mapM fun q => return (q.1, ← truth q.2)

theorem truths_cons (op : Connective) (a : α) (rest : List (Connective × α)) :
    truths truth ((op, a) :: rest) = (do return (op, ← truth a) :: (← truths truth rest)) := by
  rw [truths, List.mapM_cons]
  cases truth a <;> rfl

/-- **All operands of a chain are evaluated, from left to right, before there is a verdict on them.** -/
theorem judges_chain (h : ∀ a, Judges b (node a) (truth a)) : ∀ (rest : List (Connective × α))
    (complete : Option Node) {run : Node} {c r : Eval Bool}, JudgesComplete b complete c → Judges b run r →
      Judges b (chain complete run (rest.map fun q => (q.1, node q.2)))
        (do return judge (← c) (← r) (← truths truth rest))
  | [], complete, run, c, r, hc, hr => by
    have hd := judges_disjunction hc hr
    cases c <;> cases r <;> exact hd
  | (.and, a) :: rest, complete, run, c, r, hc, hr => by
    have ih := judges_chain h rest complete hc (hr.and (h a))
    rw [truths_cons]
    generalize truth a = t, truths truth rest = ts at ih ⊢
    cases c <;> cases r <;> cases t <;> cases ts <;> exact ih
  | (.or, a) :: rest, complete, run, c, r, hc, hr => by
    have ih := judges_chain h rest (some (disjunction complete run)) (judges_disjunction hc hr) (h a)
    rw [truths_cons]
    generalize truth a = t, truths truth rest = ts at ih ⊢
    cases c <;> cases r <;> cases t <;> cases ts <;> exact ih

end

end FraudScreen.Expr
