import FraudScreen.Expr.Builtin
import FraudScreen.Expr.Tree
import FraudScreen.Expr.Truthiness

/-!
# Evaluation

All operands of a node are evaluated first, from left to right, then its operation is applied to
their values; there is no short cut, not even for connectives. Variables are looked up in a table of
bindings, and `truthy` is a function of the table besides the built-in ones.
-/
namespace FraudScreen.Expr

/-! ## Bindings -/

/-- The variables of an expression with their values, in the order in which they were first bound. -/
abbrev Bindings := List (String × Value)

/-- Replaces the value of a name that is bound already, or binds a new one at the end. -/
def Bindings.put (b : Bindings) (name : String) (v : Value) : Bindings :=
  match b with
  | [] => [(name, v)]
  | (n, w) :: rest => if n = name then (n, v) :: rest else (n, w) :: Bindings.put rest name v

/-- Binds a name. A name keeps the type of its first value. -/
def Bindings.bind (b : Bindings) (name : String) (v : Value) : Except EvalError Bindings :=
  match b.lookup name with
  | some old =>
    if old.type = v.type then .ok (b.put name v) else .error (.unexpected (.oneType old.type) v)
  | none => .ok (b.put name v)

/-! ## Operations -/

/-- The truth value of a value: a boolean is its own, a number is true if it is not zero. -/
def truthValue (v : Value) : Eval Value :=
  match v with
  | .bool b => .ok (.bool b)
  | .float x => .ok (.bool (x != 0))
  | .int n => .ok (.bool (n != 0))
  | _ => fail (.unexpected (.oneType .bool) v)

/-- Calls a function by name. -/
def callFunction (name : String) (v : Value) : Eval Value :=
  if name = truthyName then truthValue v
  else match Builtin.named? name with
    | some f => f.apply v
    | none => fail (.unboundFunction name)

/-- Applies an operation to the values of its operands. -/
def Op.apply (b : Bindings) (op : Op) (args : List Value) : Eval Value :=
  let unary (f : Value → Eval Value) : Eval Value :=
    match args with
    | [v] => f v
    | _ => fail (.argumentCount 1 args.length)
  let binary (f : Value → Value → Eval Value) : Eval Value :=
    match args with
    | [v, w] => f v w
    | _ => fail (.argumentCount 2 args.length)
  let nullary (r : Eval Value) : Eval Value :=
    if args.isEmpty then r else fail (.argumentCount 0 args.length)
  match op with
  | .group => .ok (args.head?.getD .empty)
  | .add => binary addition
  | .sub => binary (arithmetic .sub)
  | .mul => binary (arithmetic .mul)
  | .div => binary (arithmetic .div)
  | .rem => binary (arithmetic .rem)
  | .pow => binary power
  | .neg => unary negation
  | .eq => binary fun v w => .ok (.bool (v.same w))
  | .neq => binary fun v w => .ok (.bool (!v.same w))
  | .gt => binary (compareValues .gt)
  | .lt => binary (compareValues .lt)
  | .geq => binary (compareValues .geq)
  | .leq => binary (compareValues .leq)
  | .and => binary fun v w => do
    let x ← wantBool v
    let y ← wantBool w
    .ok (.bool (x && y))
  | .or => binary fun v w => do
    let x ← wantBool v
    let y ← wantBool w
    .ok (.bool (x || y))
  | .not => unary fun v => do
    let x ← wantBool v
    .ok (.bool (!x))
  | .assign | .update => fail .assignment
  | .tuple => .ok (.tuple args)
  | .chain => .ok (args.getLast?.getD .empty)
  | .const v => nullary (.ok v)
  | .read name => nullary <|
    match b.lookup name with
    | some v => .ok v
    | none => fail (.unboundVariable name)
  | .write name => nullary (.ok (.text name))
  | .call name => unary (callFunction name)

mutual

/-- The value of a tree. -/
def Node.eval (b : Bindings) : Node → Eval Value
  | .mk op operands => do op.apply b (← evalAll b operands)

/-- The values of the operands, from left to right. -/
def evalAll (b : Bindings) : List Node → Eval (List Value)
  | [] => .ok []
  | n :: rest => do
    let v ← n.eval b
    let vs ← evalAll b rest
    .ok (v :: vs)

end

/-! ## Rules -/

/-- Reads a rule of the dialect. -/
def compile (rule : String) : Except SyntaxError Node := Node.parse (withTruthiness (normalize rule))

/-- Why a rule has no score. -/
inductive RuleFault where
  | malformed (cause : SyntaxError)
  | evaluation (cause : EvalError)
  | notNumeric (v : Value)

def RuleFault.message : RuleFault → String
  | .malformed e => "compile error: " ++ e.message
  | .evaluation e => "evaluation error: " ++ e.message
  | .notNumeric v => "expression produced a non-numeric value: " ++ v.display

/-- The score that a value stands for: one for truth, zero for falsehood, a number for itself. -/
def Value.score (v : Value) : Except RuleFault Float :=
  match v with
  | .bool b => .ok (if b then 1 else 0)
  | .float x => .ok x
  | .int n => .ok (Float.ofInt n.toInt)
  | _ => .error (.notNumeric v)

end FraudScreen.Expr
