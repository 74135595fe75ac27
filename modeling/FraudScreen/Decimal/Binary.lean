/-!
# Binary numbers taken apart

A finite floating-point number is an integer times a power of two, with a sign. Everything that is
printed, compared or rounded exactly works on these three parts.
-/
namespace FraudScreen.Decimal

/-- The magnitude `mantissa · 2 ^ exponent` of a finite number, and its sign. -/
structure Binary where
  negative : Bool
  mantissa : Nat
  exponent : Int
deriving DecidableEq, Repr

/-- What a floating-point number is. -/
inductive Kind where
  | nan
  | infinite (negative : Bool)
  | finite (value : Binary)
deriving DecidableEq, Repr

/-- The bit of a mantissa that the 64-bit format leaves out, unless the exponent is the least one. -/
def leadingBit : Nat := 1 <<< 52

/-- Reads the fields of the 64-bit format. -/
def kindOf (x : Float) : Kind :=
  let bits : Nat := x.toBits.toNat
  let negative := bits.testBit 63
  let e := bits / leadingBit % 2048
  let f := bits % leadingBit
  if e = 2047 then (if f = 0 then .infinite negative else .nan)
  else if e = 0 then .finite ⟨negative, f, -1074⟩
  else .finite ⟨negative, leadingBit + f, (e : Int) - 1075⟩

/-- The integer nearest to zero from a finite number, fraction dropped. -/
def Binary.truncate (b : Binary) : Int :=
  let magnitude : Nat :=
    if 0 ≤ b.exponent then b.mantissa <<< b.exponent.toNat
    else b.mantissa >>> (-b.exponent).toNat
  if b.negative then -(magnitude : Int) else magnitude

/-- The number `n · 2 ^ e` with the given sign, rounded once if `n` needs more than 53 bits. -/
def ofBinary (negative : Bool) (n : Nat) (e : Int) : Float :=
  let magnitude := (Float.ofNat n).scaleB e
  if negative then -magnitude else magnitude

/-- Truncation toward zero into the 64-bit signed range; out of range it stops at the nearest end,
and what is no number becomes zero. -/
def truncateToInt64 (x : Float) : Int64 :=
  match kindOf x with
  | .nan => 0
  | .infinite negative => if negative then Int64.minValue else Int64.maxValue
  | .finite b => Int64.ofIntClamp b.truncate

end FraudScreen.Decimal
