import FraudScreen.Proofs.Decimal.Number
import FraudScreen.Proofs.Expr.Equation
import FraudScreen.Proofs.Expr.Floating
import FraudScreen.Proofs.Rules.Binding

/-!
# Equality of numbers in rules

Numbers of one type are equal if they are the same number, but a whole number by type never equals one in floating
point (`Value.same_eq_of_exact?`). What a context binds is in floating point, so an equation compares numbers by
value unless an operand makes a whole number itself (`Context.eval_equated`).
-/
namespace FraudScreen

namespace Expr

open Decimal (Number)

/-- The number that a value denotes, without rounding. -/
def Value.exact? : Value → Option Number
  | .float x => (Decimal.kindOf x).number?
  | .int n => some (.rational n.toInt)
  | _ => none

/-- Numbers are equal if they are of one type and denote the same number. -/
theorem Value.same_eq_of_exact? {v u : Value} {p q : Number} (hv : v.exact? = some p) (hu : u.exact? = some q) :
    v.same u = decide (v.type = u.type ∧ p = q) := by
  cases v with
  | float x =>
    cases u with
    | float y =>
      have hx : (Decimal.kindOf x).number? = some p := hv
      have hy : (Decimal.kindOf y).number? = some q := hu
      have h := Decimal.beq_iff_number? x y
      rw [Bool.eq_iff_iff, Value.same, h, hx, hy]
      simp [Value.type, eq_comm]
    | int n => rfl
    | text | bool | tuple | empty => cases hu
  | int n =>
    cases u with
    | float y => rfl
    | int m =>
      cases hv
      cases hu
      rw [Bool.eq_iff_iff, Value.same]
      simp [Value.type, Int64.toInt_inj]
    | text | bool | tuple | empty => cases hu
  | text | bool | tuple | empty => cases hv

/-- A number that is no whole number by type is in floating point. -/
theorem Value.type_of_isFloating {v : Value} {p : Number} (hv : v.exact? = some p) (h : v.isFloating) :
    v.type = .float := by
  cases v with
  | float x => rfl
  | int n => cases h
  | text | bool | tuple | empty => cases hv

/-- What was checked of a result that was computed. -/
theorem exists_ok_of_any {ε α : Type} {x : Except ε α} {P : α → Bool} (h : x.toOption.any P) :
    ∃ a, x = .ok a ∧ P a := by
  cases x with
  | ok a => exact ⟨a, rfl, h⟩
  | error e => cases h

end Expr

namespace Rules

open FraudScreen.Expr FraudScreen.Decimal

/-- A context binds no whole numbers. -/
theorem Context.floating_values (c : Context) : Bindings.Floating c.values := by
  intro name v h
  obtain ⟨before, after, hc, -⟩ := List.lookup_eq_some_iff.1 h
  have hm : (name, v) ∈ c.values := hc ▸ List.mem_append_right _ (List.mem_cons_self ..)
  rcases List.mem_append.1 hm with hm | hm
  · obtain ⟨_, -, he⟩ := List.mem_map.1 hm
    cases he
    rfl
  · obtain ⟨_, -, he⟩ := List.mem_map.1 hm
    cases he
    rfl

/-- A purchase for 1500. -/
def purchaseOf1500 : Context := .ofTransaction
  { requestId := "r", timestamp := ⟨0, 0⟩, purchase := ⟨1500, "CHF", "shop", 5411, "chip"⟩,
    card := ⟨"t", "CH", "visa"⟩, device := ⟨"10.0.0.1", "f", "u"⟩, customer := ⟨"c", 0.25, 400⟩ }

/-- **Equations compare numbers and their types.** Between operands that make no whole numbers they compare the
numbers alone. -/
theorem Context.eval_equated (w : Equation) {word : String} (hw : word ∈ w.words) {x y : String} {n m : Node}
    (hx : standsAlone .dialect x.toList) (hn : compile x = .ok n) (hy : standsAlone .dialect y.toList)
    (hm : compile y = .ok m) :
    ∃ t, compile (equated x word y) = .ok t ∧ ∀ (c : Context) (v u : Value) (p q : Number),
      let b := (c.bind []).1
      n.eval b = .ok v → m.eval b = .ok u → v.exact? = some p → u.exact? = some q →
        t.eval b = .ok (.bool (w.holds (decide (v.type = u.type ∧ p = q)))) ∧
          (n.isFloating → m.isFloating → t.eval b = .ok (.bool (w.holds (decide (p = q))))) := by
  refine ⟨_, compile_equated w hw hx hn hy hm, fun c v u p q => ?_⟩
  intro b hv hu hp hq
  have hb : b = c.values := congrArg Prod.fst (c.bind_eq_values (.inl rfl))
  have htree : (equationTree w n m).eval b = .ok (.bool (w.holds (decide (v.type = u.type ∧ p = q)))) := by
    rw [eval_equationTree, hv, ok_bind, hu, ok_bind, Value.same_eq_of_exact? hp hq]
    rfl
  refine ⟨htree, fun hfn hfm => ?_⟩
  have hfloating : b.Floating := hb ▸ c.floating_values
  have htype : v.type = u.type := by
    rw [Value.type_of_isFloating hp (Node.isFloating_eval hfloating hfn v hv),
      Value.type_of_isFloating hq (Node.isFloating_eval hfloating hfm u hu)]
  rw [htree]
  simp [htype]

/-- An amount is equal to a whole number of the rule, which is read in floating point. -/
theorem Context.eval_equated_amount :
    "==" ∈ Equation.eq.words ∧ standsAlone .dialect "amount".toList ∧ standsAlone .dialect "1500".toList ∧
      ∃ n m t v u, compile "amount" = .ok n ∧ compile "1500" = .ok m ∧ compile "(amount) == (1500)" = .ok t ∧
        let b := (purchaseOf1500.bind []).1
        n.eval b = .ok v ∧ m.eval b = .ok u ∧ v.exact? = some (.rational 1500) ∧
          u.exact? = some (.rational 1500) ∧ n.isFloating ∧ m.isFloating ∧ t.eval b = .ok (.bool true) := by
  have hx : standsAlone .dialect "amount".toList := by decide
  have hy : standsAlone .dialect "1500".toList := by decide
  have hn : (compile "amount").toOption.any fun n => n.isFloating ∧
      (n.eval (purchaseOf1500.bind []).1).toOption.any fun v => v.exact? = some (.rational 1500) := by
    decide +kernel
  have hm : (compile "1500").toOption.any fun n => n.isFloating ∧
      (n.eval (purchaseOf1500.bind []).1).toOption.any fun v => v.exact? = some (.rational 1500) := by
    decide +kernel
  obtain ⟨n, hn, hv⟩ := exists_ok_of_any hn
  obtain ⟨m, hm, hu⟩ := exists_ok_of_any hm
  obtain ⟨hfn, hv⟩ := of_decide_eq_true hv
  obtain ⟨hfm, hu⟩ := of_decide_eq_true hu
  obtain ⟨v, hv, hp⟩ := exists_ok_of_any hv
  obtain ⟨u, hu, hq⟩ := exists_ok_of_any hu
  have hp := of_decide_eq_true hp
  have hq := of_decide_eq_true hq
  have hword : "==" ∈ Equation.eq.words := by decide
  obtain ⟨t, ht, heval⟩ := Context.eval_equated .eq hword hx hn hy hm
  exact ⟨hword, hx, hy, n, m, t, v, u, hn, hm, ht, hv, hu, hp, hq, hfn, hfm,
    (heval purchaseOf1500 v u _ _ hv hu hp hq).2 hfn hfm⟩

/-- The length of a text is a whole number by type, and never equal to a number that the rule writes down. -/
theorem Context.eval_equated_length :
    standsAlone .dialect "len(\"abc\")".toList ∧ standsAlone .dialect "3".toList ∧
      ∃ n m t v u, compile "len(\"abc\")" = .ok n ∧ compile "3" = .ok m ∧
        compile "(len(\"abc\")) == (3)" = .ok t ∧
        let b := (purchaseOf1500.bind []).1
        n.eval b = .ok v ∧ m.eval b = .ok u ∧ v.exact? = some (.rational 3) ∧ u.exact? = some (.rational 3) ∧
          t.eval b = .ok (.bool false) := by
  have hx : standsAlone .dialect "len(\"abc\")".toList := by decide
  have hy : standsAlone .dialect "3".toList := by decide
  have hn : (compile "len(\"abc\")").toOption.any fun n =>
      (n.eval (purchaseOf1500.bind []).1).toOption.any fun v =>
        v.type = .int ∧ v.exact? = some (.rational 3) := by decide +kernel
  have hm : (compile "3").toOption.any fun n =>
      (n.eval (purchaseOf1500.bind []).1).toOption.any fun v =>
        v.type = .float ∧ v.exact? = some (.rational 3) := by decide +kernel
  obtain ⟨n, hn, hv⟩ := exists_ok_of_any hn
  obtain ⟨v, hv, hp⟩ := exists_ok_of_any hv
  obtain ⟨m, hm, hu⟩ := exists_ok_of_any hm
  obtain ⟨u, hu, hq⟩ := exists_ok_of_any hu
  obtain ⟨hint, hp⟩ := of_decide_eq_true hp
  obtain ⟨hfloat, hq⟩ := of_decide_eq_true hq
  have ht : compile (equated "len(\"abc\")" "==" "3") = .ok (equationTree .eq n m) :=
    compile_equated .eq (by decide) hx hn hy hm
  refine ⟨hx, hy, n, m, _, v, u, hn, hm, ht, hv, hu, hp, hq, ?_⟩
  rw [eval_equationTree, hv, ok_bind, hu, ok_bind, Value.same_eq_of_exact? hp hq, hint, hfloat]
  rfl

end Rules

end FraudScreen
