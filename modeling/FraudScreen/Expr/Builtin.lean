import FraudScreen.Expr.Arithmetic
import FraudScreen.Text.Blank
import FraudScreen.Text.Bytes
import FraudScreen.Text.CaseMap

/-!
# Built-in functions

The functions every expression may call, by name. Each takes one value; several arguments are one
tuple.
-/
namespace FraudScreen.Expr

/-- Functions of one number. -/
inductive Unary where
  | ln | log2 | log10 | exp | exp2
  | cos | acos | cosh | acosh | sin | asin | sinh | asinh | tan | atan | tanh | atanh
  | sqrt | cbrt | floor | round | ceil
deriving DecidableEq, Repr

/-- Functions of two numbers. -/
inductive Binary where
  | log | pow | atan2 | hypot
deriving DecidableEq, Repr

/-- Questions about one number. -/
inductive FloatTest where
  | isNan | isFinite | isInfinite | isNormal
deriving DecidableEq, Repr

/-- Operations on the bits of two whole numbers. -/
inductive BitOperation where
  | and | or | xor | shiftLeft | shiftRight
deriving DecidableEq, Repr

/-- The built-in functions. -/
inductive Builtin where
  | unary (f : Unary)
  | binary (f : Binary)
  | test (t : FloatTest)
  | abs | typeOf | least | greatest | choose | contains | containsAny | length
  | lowercase | uppercase | trim | render | substring
  | bits (op : BitOperation)
  | bitNot
deriving DecidableEq, Repr

/-- The function of a name. -/
def Builtin.named? : String → Option Builtin
  | "math::ln" => some (.unary .ln)
  | "math::log" => some (.binary .log)
  | "math::log2" => some (.unary .log2)
  | "math::log10" => some (.unary .log10)
  | "math::exp" => some (.unary .exp)
  | "math::exp2" => some (.unary .exp2)
  | "math::pow" => some (.binary .pow)
  | "math::cos" => some (.unary .cos)
  | "math::acos" => some (.unary .acos)
  | "math::cosh" => some (.unary .cosh)
  | "math::acosh" => some (.unary .acosh)
  | "math::sin" => some (.unary .sin)
  | "math::asin" => some (.unary .asin)
  | "math::sinh" => some (.unary .sinh)
  | "math::asinh" => some (.unary .asinh)
  | "math::tan" => some (.unary .tan)
  | "math::atan" => some (.unary .atan)
  | "math::tanh" => some (.unary .tanh)
  | "math::atanh" => some (.unary .atanh)
  | "math::atan2" => some (.binary .atan2)
  | "math::sqrt" => some (.unary .sqrt)
  | "math::cbrt" => some (.unary .cbrt)
  | "math::hypot" => some (.binary .hypot)
  | "math::is_nan" => some (.test .isNan)
  | "math::is_finite" => some (.test .isFinite)
  | "math::is_infinite" => some (.test .isInfinite)
  | "math::is_normal" => some (.test .isNormal)
  | "math::abs" => some .abs
  | "floor" => some (.unary .floor)
  | "round" => some (.unary .round)
  | "ceil" => some (.unary .ceil)
  | "typeof" => some .typeOf
  | "min" => some .least
  | "max" => some .greatest
  | "if" => some .choose
  | "contains" => some .contains
  | "contains_any" => some .containsAny
  | "len" => some .length
  | "str::to_lowercase" => some .lowercase
  | "str::to_uppercase" => some .uppercase
  | "str::trim" => some .trim
  | "str::from" => some .render
  | "str::substring" => some .substring
  | "bitand" => some (.bits .and)
  | "bitor" => some (.bits .or)
  | "bitxor" => some (.bits .xor)
  | "bitnot" => some .bitNot
  | "shl" => some (.bits .shiftLeft)
  | "shr" => some (.bits .shiftRight)
  | _ => none

/-! ## Functions of numbers -/

/-- Hypotenuses of legs beyond these bounds are computed on a scale that keeps their squares finite and
normal. -/
def greatestLeg : Float := Float.scaleB 1.0 511

@[inherit_doc greatestLeg]
def leastLeg : Float := Float.scaleB 1.0 (-459)

/-- A leg below this part of the other one adds no more than a last digit. -/
def negligible : Float := Float.scaleB 1.0 (-54)

/-- The root of the sum of the squares of `x ≥ y ≥ 0`, less the error of the root, which is computed
without losing digits from the differences of the three sides. -/
def correctedRoot (x y : Float) : Float :=
  let h := (x * x + y * y).sqrt
  let error :=
    if h ≤ 2.0 * y then
      let d := h - y
      x * (2.0 * d - x) + (d - 2.0 * (x - y)) * d
    else
      let d := h - x
      2.0 * d * (x - 2.0 * y) + ((4.0 * d - y) * y + d * d)
  h - error / (2.0 * h)

/-- The hypotenuse of a right triangle with legs `x` and `y`. -/
def hypotenuse (x y : Float) : Float :=
  if x.isInf || y.isInf then 1.0 / 0.0
  else if x.isNaN || y.isNaN then 0.0 / 0.0
  else
    let (a, b) := if x.abs < y.abs then (y.abs, x.abs) else (x.abs, y.abs)
    if b ≤ a * negligible then a + b
    else if greatestLeg < a then (correctedRoot (a.scaleB (-600)) (b.scaleB (-600))).scaleB 600
    else if b < leastLeg then (correctedRoot (a.scaleB 600) (b.scaleB 600)).scaleB (-600)
    else correctedRoot a b

def Unary.apply : Unary → Float → Float
  | .ln => Float.log
  | .log2 => Float.log2
  | .log10 => Float.log10
  | .exp => Float.exp
  | .exp2 => Float.exp2
  | .cos => Float.cos
  | .acos => Float.acos
  | .cosh => Float.cosh
  | .acosh => Float.acosh
  | .sin => Float.sin
  | .asin => Float.asin
  | .sinh => Float.sinh
  | .asinh => Float.asinh
  | .tan => Float.tan
  | .atan => Float.atan
  | .tanh => Float.tanh
  | .atanh => Float.atanh
  | .sqrt => Float.sqrt
  | .cbrt => Float.cbrt
  | .floor => Float.floor
  | .round => Float.round
  | .ceil => Float.ceil

def Binary.apply : Binary → Float → Float → Float
  | .log, x, b => x.log / b.log
  | .pow, x, y => x.pow y
  | .atan2, y, x => y.atan2 x
  | .hypot, x, y => hypotenuse x y

def FloatTest.apply (t : FloatTest) (x : Float) : Bool :=
  match t, Decimal.kindOf x with
  | .isNan, .nan => true
  | .isFinite, .finite _ => true
  | .isInfinite, .infinite _ => true
  | .isNormal, .finite b => Decimal.leadingBit ≤ b.mantissa
  | _, _ => false

/-- Shift amounts count modulo 64; a right shift keeps the sign. -/
def BitOperation.apply : BitOperation → Int64 → Int64 → Int64
  | .and, a, b => a &&& b
  | .or, a, b => a ||| b
  | .xor, a, b => a ^^^ b
  | .shiftLeft, a, b => a <<< b
  | .shiftRight, a, b => a >>> b

/-! ## Extremes -/

/-- The extremes of the whole numbers and of the other numbers among the arguments are kept apart. -/
def extremes (better : Int → Int → Bool) (betterFloat : Float → Float → Bool) (n : Int64) (x : Float) :
    List Value → Eval (Int64 × Float)
  | [] => .ok (n, x)
  | .float y :: rest => extremes better betterFloat n (if betterFloat y x then y else x) rest
  | .int m :: rest => extremes better betterFloat (if better m.toInt n.toInt then m else n) x rest
  | v :: _ => fail (.unexpected .number v)

/-- The least argument. A whole number is the answer if it is below every other number. -/
def leastOf (items : List Value) : Eval Value := do
  let (n, x) ← extremes (fun a b => decide (a < b)) (fun a b => decide (a < b))
    Int64.maxValue (1.0 / 0.0) items
  .ok (if Float.ofInt n.toInt < x then .int n else .float x)

/-- The greatest argument. -/
def greatestOf (items : List Value) : Eval Value := do
  let (n, x) ← extremes (fun a b => decide (b < a)) (fun a b => decide (b < a))
    Int64.minValue (-1.0 / 0.0) items
  .ok (if x < Float.ofInt n.toInt then .int n else .float x)

/-! ## Tuples and texts -/

/-- The types of values that a tuple can be searched for. -/
def searchable : List ValueType := [.text, .int, .float, .bool]

/-- Whether a tuple holds a value. -/
def holds (items : List Value) (v : Value) : Eval Bool :=
  if searchable.contains v.type then .ok (items.any (Value.same · v))
  else fail (.unexpected (.oneOf searchable) v)

/-- Whether a tuple holds any of some values, all of which must be searchable. -/
def holdsAny (items vs : List Value) : Eval Bool := do
  return (← vs.mapM (holds items)).any id

/-- A byte offset. -/
def wantOffset (v : Value) : Eval Nat := do
  let n ← wantInt v
  if n.toInt < 0 then fail .outOfBounds else .ok n.toInt.toNat

/-- The bytes of a text from one offset up to another. A cut inside a character is a crash. -/
def substringOf (s : String) (start stop : Nat) : Eval Value :=
  if stop < start ∨ s.utf8ByteSize < stop then fail .outOfBounds
  else match Text.sliceBytes s.toList start stop with
    | some cs => .ok (.text (String.ofList cs))
    | none => .error .crash

/-- A part of a text, from one offset up to another or to the end. -/
def cutText (v : Value) : Eval Value := do
  match ← wantTuple v with
  | [a, b] => do
    let s ← wantText a
    let start ← wantOffset b
    substringOf s start s.utf8ByteSize
  | [a, b, c] => do
    let s ← wantText a
    let start ← wantOffset b
    let stop ← wantOffset c
    substringOf s start stop
  | _ => fail (.unexpected (.tupleOfRange 2 3) v)

/-! ## Application -/

/-- Applies a built-in function to its argument. -/
def Builtin.apply (f : Builtin) (v : Value) : Eval Value :=
  match f with
  | .unary g => do return .float (g.apply (← wantNumber v))
  | .binary g => do
    let (a, b) ← wantPair v
    return .float (g.apply (← wantNumber a) (← wantNumber b))
  | .test t => do return .bool (t.apply (← wantNumber v))
  | .abs =>
    match v with
    | .float x => .ok (.float x.abs)
    | .int n => .ok (.int n.abs)
    | _ => fail (.unexpected .number v)
  | .typeOf => .ok (.text v.type.keyword)
  | .least => do leastOf (← wantTuple v)
  | .greatest => do greatestOf (← wantTuple v)
  | .choose => do
    match ← wantTuple v with
    | [c, a, b] => do return if ← wantBool c then a else b
    | _ => fail (.unexpected (.tupleOf 3) v)
  | .contains => do
    let (a, b) ← wantPair v
    return .bool (← holds (← wantTuple a) b)
  | .containsAny => do
    let (a, b) ← wantPair v
    let items ← wantTuple a
    return .bool (← holdsAny items (← wantTuple b))
  | .length =>
    match v with
    | .text s => .ok (.int (Int64.ofNat s.utf8ByteSize))
    | .tuple items => .ok (.int (Int64.ofNat items.length))
    | _ => fail (.unexpected (.oneOf [.text, .tuple]) v)
  | .lowercase => do return .text (Text.toLower (← wantText v))
  | .uppercase => do return .text (Text.toUpper (← wantText v))
  | .trim => do return .text (Text.trimString (← wantText v))
  | .render =>
    match v with
    | .text s => .ok (.text s)
    | v => .ok (.text v.display)
  | .substring => cutText v
  | .bits op => do
    let (a, b) ← wantPair v
    return .int (op.apply (← wantInt a) (← wantInt b))
  | .bitNot => do return .int (~~~ (← wantInt v))

end FraudScreen.Expr
