import FraudScreen.Expr.Eval

/-!
# Applying operations

An operation fails unless it gets as many operands as it takes, and a function that wants a tuple fails for anything
else. So of what an operation gives, only the results for operands of the right shape have to be looked at.
-/
namespace FraudScreen.Expr

theorem wantText_eq_ok_iff {v : Value} {s : String} : wantText v = .ok s ↔ v = .text s := by
  cases v <;> simp [wantText, fail]

theorem wantTuple_eq_ok_iff {v : Value} {items : List Value} : wantTuple v = .ok items ↔ v = .tuple items := by
  cases v <;> simp [wantTuple, fail]

theorem wantPair_eq_ok_iff {v : Value} {p : Value × Value} : wantPair v = .ok p ↔ v = .tuple [p.1, p.2] := by
  cases v with
  | tuple items =>
    match items with
    | [a, b] => exact ⟨by rintro ⟨⟩; rfl, by rintro ⟨⟩; rfl⟩
    | [] | [_] | _ :: _ :: _ :: _ => exact ⟨nofun, nofun⟩
  | text | float | int | bool | empty => exact ⟨nofun, nofun⟩

section

variable {P : Eval Value → Prop} (hfail : ∀ cause, P (fail cause)) (args : List Value)

include hfail

theorem unary_induction (f : Value → Eval Value) :
    (∀ v, args = [v] → P (f v)) → P (match args with
      | [v] => f v
      | _ => fail (.argumentCount 1 args.length)) := by
  intro hf
  split
  · exact hf _ rfl
  · exact hfail _

theorem binary_induction (f : Value → Value → Eval Value) :
    (∀ v w, args = [v, w] → P (f v w)) → P (match args with
      | [v, w] => f v w
      | _ => fail (.argumentCount 2 args.length)) := by
  intro hf
  split
  · exact hf _ _ rfl
  · exact hfail _

theorem nullary_induction {x : Eval Value} (hx : P x) :
    P (if args.isEmpty then x else fail (.argumentCount 0 args.length)) := by
  split
  · exact hx
  · exact hfail _

end

end FraudScreen.Expr
