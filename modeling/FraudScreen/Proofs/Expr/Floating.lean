import FraudScreen.Proofs.Expr.Application
import FraudScreen.Proofs.Expr.Token

/-!
# Expressions in floating point

Whole numbers come into an expression as constants, as variables, or as results of the functions that count or look
for an extreme. An expression without any of these has no whole number in its value: `Node.isFloating_eval`. Of
numbers that are compared neither is then a whole number.
-/
namespace FraudScreen.Expr

mutual

/-- The value holds no whole number, not even within a tuple. -/
def Value.isFloating : Value → Bool
  | .int _ => false
  | .tuple items => areFloating items
  | _ => true

def areFloating : List Value → Bool
  | [] => true
  | v :: vs => v.isFloating && areFloating vs

end

theorem areFloating_iff {vs : List Value} : areFloating vs ↔ ∀ v ∈ vs, v.isFloating := by
  induction vs with
  | nil => simp [areFloating]
  | cons v vs ih => simp [areFloating, ih]

/-- The functions that can make a whole number of other values. Among the extremes is one if all the numbers given
lie beyond the range of whole numbers. -/
def Builtin.makesInt : Builtin → Bool
  | .length | .least | .greatest => true
  | _ => false

/-- The operation makes no whole number of other values. -/
def Op.isFloating : Op → Bool
  | .const v => v.isFloating
  | .call name => (Builtin.named? name).all (!·.makesInt)
  | _ => true

mutual

/-- No operation of the tree makes a whole number of other values. -/
def Node.isFloating : Node → Bool
  | .mk op operands => op.isFloating && allFloating operands

def allFloating : List Node → Bool
  | [] => true
  | n :: ns => n.isFloating && allFloating ns

end

/-- No variable has a whole number in its value. -/
def Bindings.Floating (b : Bindings) : Prop := ∀ name v, b.lookup name = some v → v.isFloating

/-! ## Computations without whole numbers -/

/-- The value of the computation, if it has one, holds no whole number. -/
def Floats (x : Eval Value) : Prop := ∀ v, x = .ok v → v.isFloating

theorem floats_ok {v : Value} (h : v.isFloating) : Floats (.ok v) := by
  rintro _ ⟨⟩
  exact h

theorem floats_fail (cause : EvalError) : Floats (fail cause) := nofun

theorem Floats.bind {α : Type} {x : Eval α} {f : α → Eval Value} (h : ∀ a, x = .ok a → Floats (f a)) :
    Floats (x >>= f) := by
  cases x with
  | ok a => exact h a rfl
  | error e => exact nofun

section

variable {v w : Value}

theorem wantInt_of_isFloating (h : v.isFloating) (n : Int64) : wantInt v ≠ .ok n := by
  cases v with
  | int => cases h
  | text | float | bool | tuple | empty => exact nofun

/-- Only two whole numbers make a whole number, so one operand decides. -/
theorem floats_arithmetic (op : IntOperation) (h : v.isFloating) : Floats (arithmetic op v w) := by
  refine .bind fun x _ => .bind fun y _ => ?_
  cases v with
  | int => cases h
  | text | float | bool | tuple | empty => exact floats_ok rfl

theorem floats_addition (h : v.isFloating) : Floats (addition v w) := by
  refine .bind fun _ _ => .bind fun _ _ => ?_
  cases v with
  | int => cases h
  | text | float | bool | tuple | empty =>
    cases w <;> first | exact floats_ok rfl | exact floats_fail _

theorem floats_negation (h : v.isFloating) : Floats (negation v) := by
  refine .bind fun x _ => ?_
  cases v with
  | int => cases h
  | text | float | bool | tuple | empty => exact floats_ok rfl

theorem floats_power : Floats (power v w) := .bind fun _ _ => .bind fun _ _ => floats_ok rfl

theorem floats_compareValues (op : Comparison) : Floats (compareValues op v w) := by
  refine .bind fun _ _ => .bind fun _ _ => ?_
  split
  · exact floats_ok rfl
  · exact floats_ok rfl
  · exact .bind fun _ _ => .bind fun _ _ => floats_ok rfl

theorem floats_truthValue : Floats (truthValue v) := by
  cases v <;> first | exact floats_ok rfl | exact floats_fail _

theorem floats_substringOf (s : String) (start stop : Nat) : Floats (substringOf s start stop) := by
  unfold substringOf
  split
  · exact floats_fail _
  split
  · exact floats_ok rfl
  · exact nofun

theorem floats_cutText : Floats (cutText v) := by
  refine .bind fun items _ => ?_
  split
  · exact .bind fun s _ => .bind fun start _ => floats_substringOf s start _
  · exact .bind fun s _ => .bind fun start _ => .bind fun stop _ => floats_substringOf s start stop
  · exact floats_fail _

theorem Builtin.floats_apply {f : Builtin} (hf : f.makesInt = false) (h : v.isFloating) : Floats (f.apply v) := by
  cases f with
  | unary => exact .bind fun _ _ => floats_ok rfl
  | binary => exact .bind fun _ _ => .bind fun _ _ => .bind fun _ _ => floats_ok rfl
  | test => exact .bind fun _ _ => floats_ok rfl
  | abs =>
    cases v with
    | int => cases h
    | float => exact floats_ok rfl
    | text | bool | tuple | empty => exact floats_fail _
  | typeOf => exact floats_ok rfl
  | least | greatest | length => cases hf
  | choose =>
    refine .bind fun items hi => ?_
    obtain rfl := wantTuple_eq_ok_iff.1 hi
    split
    · rename_i c a b
      have hmem := areFloating_iff.1 h
      refine .bind fun t _ => floats_ok ?_
      split
      · exact hmem a (by simp)
      · exact hmem b (by simp)
    · exact floats_fail _
  | contains => exact .bind fun _ _ => .bind fun _ _ => .bind fun _ _ => floats_ok rfl
  | containsAny => exact .bind fun _ _ => .bind fun _ _ => .bind fun _ _ => .bind fun _ _ => floats_ok rfl
  | lowercase | uppercase | trim => exact .bind fun _ _ => floats_ok rfl
  | render => cases v <;> exact floats_ok rfl
  | substring => exact floats_cutText
  | bits op =>
    refine .bind fun p hp => .bind fun m hm => ?_
    obtain rfl := wantPair_eq_ok_iff.1 hp
    exact absurd hm (wantInt_of_isFloating (areFloating_iff.1 h p.1 (List.mem_cons_self ..)) m)
  | bitNot => exact .bind fun n hn => absurd hn (wantInt_of_isFloating h n)

theorem floats_callFunction {name : String} (hn : (Op.call name).isFloating) (h : v.isFloating) :
    Floats (callFunction name v) := by
  unfold callFunction
  split
  · exact floats_truthValue
  split
  · rename_i f hf
    have hm : f.makesInt = false := by simpa [Op.isFloating, hf] using hn
    exact f.floats_apply hm h
  · exact floats_fail _

end

/-! ## Trees without whole numbers -/

theorem Op.floats_apply {b : Bindings} (hb : b.Floating) {op : Op} {args : List Value} (ho : op.isFloating)
    (h : areFloating args) : Floats (op.apply b args) := by
  have hmem := areFloating_iff.1 h
  have hunary (f : Value → Eval Value) (hf : ∀ v, v.isFloating → Floats (f v)) :=
    unary_induction floats_fail args f fun v hv => hf v (hmem v (hv ▸ List.mem_cons_self ..))
  have hbinary (f : Value → Value → Eval Value) (hf : ∀ v w, v.isFloating → Floats (f v w)) :=
    binary_induction floats_fail args f fun v w hv => hf v w (hmem v (hv ▸ List.mem_cons_self ..))
  cases op with
  | group =>
    refine floats_ok ?_
    cases args with
    | nil => rfl
    | cons v vs => exact hmem v (List.mem_cons_self ..)
  | chain =>
    refine floats_ok ?_
    cases hl : args.getLast? with
    | none => rfl
    | some v => exact hmem v (List.mem_of_getLast? hl)
  | tuple => exact floats_ok h
  | add => exact hbinary _ fun _ _ => floats_addition
  | sub => exact hbinary _ fun _ _ => floats_arithmetic .sub
  | mul => exact hbinary _ fun _ _ => floats_arithmetic .mul
  | div => exact hbinary _ fun _ _ => floats_arithmetic .div
  | rem => exact hbinary _ fun _ _ => floats_arithmetic .rem
  | pow => exact hbinary _ fun _ _ _ => floats_power
  | neg => exact hunary _ fun _ => floats_negation
  | eq | neq => exact hbinary _ fun _ _ _ => floats_ok rfl
  | gt => exact hbinary _ fun _ _ _ => floats_compareValues .gt
  | lt => exact hbinary _ fun _ _ _ => floats_compareValues .lt
  | geq => exact hbinary _ fun _ _ _ => floats_compareValues .geq
  | leq => exact hbinary _ fun _ _ _ => floats_compareValues .leq
  | and | or => exact hbinary _ fun _ _ _ => .bind fun _ _ => .bind fun _ _ => floats_ok rfl
  | not => exact hunary _ fun _ _ => .bind fun _ _ => floats_ok rfl
  | assign | update => exact floats_fail _
  | const v => exact nullary_induction floats_fail args (floats_ok ho)
  | read name =>
    refine nullary_induction floats_fail args ?_
    split
    · rename_i v hv
      exact floats_ok (hb name v hv)
    · exact floats_fail _
  | write name => exact nullary_induction floats_fail args (floats_ok rfl)
  | call name => exact hunary _ fun _ => floats_callFunction ho

mutual

/-- **A tree without whole numbers has none in its value**, by induction on the tree. -/
theorem Node.isFloating_eval {b : Bindings} (hb : b.Floating) : ∀ {n : Node}, n.isFloating → Floats (n.eval b)
  | .mk op operands, h => by
    obtain ⟨ho, hn⟩ := Bool.and_eq_true_iff.1 h
    rw [Node.eval]
    exact .bind fun args ha => op.floats_apply hb ho (areFloating_evalAll hb hn ha)

theorem areFloating_evalAll {b : Bindings} (hb : b.Floating) : ∀ {ns : List Node} {vs : List Value},
    allFloating ns → evalAll b ns = .ok vs → areFloating vs
  | [], vs, _, h => by
    cases h
    rfl
  | n :: ns, vs, hn, h => by
    obtain ⟨h₁, h₂⟩ := Bool.and_eq_true_iff.1 hn
    obtain ⟨v, hv, h⟩ := bind_eq_ok h
    obtain ⟨us, hu, h⟩ := bind_eq_ok h
    cases h
    exact Bool.and_eq_true_iff.2 ⟨Node.isFloating_eval hb h₁ v hv, areFloating_evalAll hb h₂ hu⟩

end

end FraudScreen.Expr
