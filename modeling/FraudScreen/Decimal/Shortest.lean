import FraudScreen.Decimal.Binary

/-!
# Shortest decimals

The fewest decimal digits that read back to a given floating-point number. The numbers that round to
it form an interval, with its ends when the mantissa is even. For one digit, two digits and so on, the
two neighbours of the number on that decimal grid are tested against the interval; the first grid with
a hit wins, of two hits the nearer one, and of two equally near ones the upper.
-/
namespace FraudScreen.Decimal

/-- The decimal `digits · 10 ^ exponent`. -/
structure Scaled where
  digits : Nat
  exponent : Int
deriving DecidableEq, Repr

/-- A positive rational with the ends of its rounding interval, over one denominator. -/
structure Interval where
  low : Nat
  value : Nat
  high : Nat
  denominator : Nat
  closed : Bool

/-- The rounding interval of a positive binary number. Below a power of two the spacing halves. -/
def Binary.interval (b : Binary) : Interval :=
  let below := if b.mantissa = leadingBit ∧ -1074 < b.exponent then 1 else 2
  let up := (b.exponent - 2).toNat
  let down := (2 - b.exponent).toNat
  { low := (4 * b.mantissa - below) <<< up
    value := (4 * b.mantissa) <<< up
    high := (4 * b.mantissa + 2) <<< up
    denominator := 1 <<< down
    closed := b.mantissa % 2 = 0 }

/-- The least `k` from `k` on with `n < 10 ^ k · d`. -/
def digitsAbove (n d : Nat) : Nat → Nat → Nat
  | 0, k => k
  | fuel + 1, k => if n < Nat.pow 10 k * d then k else digitsAbove n d fuel (k + 1)

/-- The least `k` from `k` on with `d ≤ n · 10 ^ (k + 1)`. -/
def zerosBelow (n d : Nat) : Nat → Nat → Nat
  | 0, k => k
  | fuel + 1, k => if d ≤ n * Nat.pow 10 (k + 1) then k else zerosBelow n d fuel (k + 1)

/-- The position of the leading digit: the `k` with `10 ^ (k - 1) ≤ n / d < 10 ^ k`. -/
def leadingPosition (n d : Nat) : Int :=
  if d ≤ n then digitsAbove n d 400 1 else -(zerosBelow n d 400 0 : Int)

/-- The point of the grid `10 ^ t` that stands for the interval's value, if one lies inside. -/
def Interval.onGrid? (i : Interval) (t : Int) : Option Scaled :=
  -- both sides are multiplied by `scale` or `unit`, whichever makes them whole
  let scale := Nat.pow 10 (-t).toNat
  let unit := i.denominator * Nat.pow 10 t.toNat
  let inside (c : Nat) : Bool :=
    if i.closed then i.low * scale ≤ c * unit && c * unit ≤ i.high * scale
    else i.low * scale < c * unit && c * unit < i.high * scale
  let c := i.value * scale / unit
  match inside c, inside (c + 1) with
  | true, true =>
    if 2 * (i.value * scale) < (2 * c + 1) * unit then some ⟨c, t⟩ else some ⟨c + 1, t⟩
  | true, false => some ⟨c, t⟩
  | false, true => some ⟨c + 1, t⟩
  | false, false => none

/-- The first grid with a hit, from `n` digits on. -/
def Interval.search (i : Interval) (k : Int) : Nat → Nat → Option Scaled
  | 0, _ => none
  | fuel + 1, n =>
    match i.onGrid? (k - n) with
    | some d => some d
    | none => i.search k fuel (n + 1)

/-- Drops trailing zeros, each of which moves the exponent by one. -/
def stripZeros : Nat → Scaled → Scaled
  | 0, d => d
  | fuel + 1, d =>
    if d.digits ≠ 0 ∧ d.digits % 10 = 0 then stripZeros fuel ⟨d.digits / 10, d.exponent + 1⟩ else d

/-- The shortest decimal of a binary number. Seventeen digits always suffice. -/
def Binary.shortest (b : Binary) : Scaled :=
  if b.mantissa = 0 then ⟨0, 0⟩
  else
    let i := b.interval
    match i.search (leadingPosition i.value i.denominator) 17 1 with
    | some d => stripZeros 17 d
    | none => ⟨0, 0⟩

end FraudScreen.Decimal
