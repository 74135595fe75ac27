import FraudScreen.Expr.Error

/-!
# Arithmetic

Two whole numbers are combined exactly and must stay in the 64-bit range; anything else is combined
in floating point.
-/
namespace FraudScreen.Expr

/-- A whole number that fits 64 bits. -/
def int64? (n : Int) : Option Int64 :=
  if Int64.minValue.toInt ≤ n ∧ n ≤ Int64.maxValue.toInt then some (Int64.ofInt n) else none

/-- The exact result of an operation on whole numbers; division and remainder go toward zero. -/
def IntOperation.exact? (op : IntOperation) (a b : Int64) : Option Int64 :=
  let x := a.toInt
  let y := b.toInt
  match op with
  | .add => int64? (x + y)
  | .sub => int64? (x - y)
  | .mul => int64? (x * y)
  | .div => if y = 0 then none else int64? (x.tdiv y)
  | .rem => if y = 0 ∨ int64? (x.tdiv y) = none then none else int64? (x.tmod y)

def IntOperation.apply (op : IntOperation) (a b : Int64) : Eval Value :=
  match op.exact? a b with
  | some n => .ok (.int n)
  | none => fail (.overflow op a b)

/-- The remainder of a division whose quotient is rounded toward zero; it is exact, and it has the
sign of the dividend. -/
def floatRemainder (x y : Float) : Float :=
  match Decimal.kindOf x, Decimal.kindOf y with
  | .finite a, .finite b =>
    if b.mantissa = 0 then 0 / 0
    else
      let e := min a.exponent b.exponent
      let r := (a.mantissa <<< (a.exponent - e).toNat) % (b.mantissa <<< (b.exponent - e).toNat)
      Decimal.ofBinary a.negative r e
  | .finite _, .infinite _ => x
  | _, _ => 0 / 0

def IntOperation.onFloats : IntOperation → Float → Float → Float
  | .add, x, y => x + y
  | .sub, x, y => x - y
  | .mul, x, y => x * y
  | .div, x, y => x / y
  | .rem, x, y => floatRemainder x y

/-- The number a value denotes, or the error that one was wanted. -/
def wantNumber (v : Value) : Eval Float :=
  match v.number? with
  | some x => .ok x
  | none => fail (.unexpected .number v)

/-- Refuses what is neither a number nor a text. -/
def wantNumberOrText (v : Value) : Eval Unit :=
  match v with
  | .text _ | .int _ | .float _ => .ok ()
  | _ => fail (.unexpected .numberOrText v)

def wantBool (v : Value) : Eval Bool :=
  match v with
  | .bool b => .ok b
  | _ => fail (.unexpected (.oneType .bool) v)

def wantInt (v : Value) : Eval Int64 :=
  match v with
  | .int n => .ok n
  | _ => fail (.unexpected (.oneType .int) v)

def wantText (v : Value) : Eval String :=
  match v with
  | .text s => .ok s
  | _ => fail (.unexpected (.oneType .text) v)

def wantTuple (v : Value) : Eval (List Value) :=
  match v with
  | .tuple items => .ok items
  | _ => fail (.unexpected (.oneType .tuple) v)

/-- A tuple of exactly two values. -/
def wantPair (v : Value) : Eval (Value × Value) := do
  match ← wantTuple v with
  | [a, b] => .ok (a, b)
  | _ => fail (.unexpected (.tupleOf 2) v)

/-- Subtraction, multiplication, division and remainder. -/
def arithmetic (op : IntOperation) (a b : Value) : Eval Value := do
  let x ← wantNumber a
  let y ← wantNumber b
  match a, b with
  | .int m, .int n => op.apply m n
  | _, _ => .ok (.float (op.onFloats x y))

/-- Addition of numbers, or concatenation of texts. -/
def addition (a b : Value) : Eval Value := do
  wantNumberOrText a
  wantNumberOrText b
  match a, b with
  | .text s, .text t => .ok (.text (s ++ t))
  | .int m, .int n => IntOperation.add.apply m n
  | _, _ =>
    match a.number?, b.number? with
    | some x, some y => .ok (.float (x + y))
    | _, _ => fail (.mixedSum [a.type, b.type])

def negation (a : Value) : Eval Value := do
  let x ← wantNumber a
  match a with
  | .int n =>
    match int64? (-n.toInt) with
    | some m => .ok (.int m)
    | none => fail (.negationOverflow n)
  | _ => .ok (.float (-x))

def power (a b : Value) : Eval Value := do
  let x ← wantNumber a
  let y ← wantNumber b
  .ok (.float (x.pow y))

/-- The comparisons by size. -/
inductive Comparison where
  | gt | lt | geq | leq
deriving DecidableEq, Repr

def Comparison.onText : Comparison → String → String → Bool
  | .gt, a, b => decide (b < a)
  | .lt, a, b => decide (a < b)
  | .geq, a, b => !decide (a < b)
  | .leq, a, b => !decide (b < a)

def Comparison.onInt : Comparison → Int → Int → Bool
  | .gt, a, b => decide (b < a)
  | .lt, a, b => decide (a < b)
  | .geq, a, b => decide (b ≤ a)
  | .leq, a, b => decide (a ≤ b)

def Comparison.onFloat : Comparison → Float → Float → Bool
  | .gt, a, b => decide (b < a)
  | .lt, a, b => decide (a < b)
  | .geq, a, b => decide (b ≤ a)
  | .leq, a, b => decide (a ≤ b)

/-- Compares two texts by their characters, or two numbers by size. -/
def compareValues (op : Comparison) (a b : Value) : Eval Value := do
  wantNumberOrText a
  wantNumberOrText b
  match a, b with
  | .text s, .text t => .ok (.bool (op.onText s t))
  | .int m, .int n => .ok (.bool (op.onInt m.toInt n.toInt))
  | _, _ => do
    let x ← wantNumber a
    let y ← wantNumber b
    .ok (.bool (op.onFloat x y))

end FraudScreen.Expr
