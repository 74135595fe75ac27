import FraudScreen.Decimal.Reader

/-!
# Numbers in JSON

A number keeps the digits it is written with, since a whole number and a decimal of the same value are
read differently. As a floating-point number it is its leading digits, as many as fit 64 bits, scaled
by one power of ten; further digits only move the power. A number beyond the range is refused.
-/
namespace FraudScreen.Json

/-- A number as it is written. -/
structure Number where
  negative : Bool
  whole : List Char
  fraction : Option (List Char)
  /-- Whether the exponent is negative, and its digits. -/
  exponent : Option (Bool × List Char)

namespace Number

/-- The largest 64-bit word. -/
def maxWord : Nat := UInt64.size - 1

/-- Adds digits to `n` as long as the result fits 64 bits; also counts the digits added. -/
def takeDigits (n : Nat) : List Char → Nat × Nat
  | [] => (n, 0)
  | c :: rest =>
    let m := 10 * n + (c.toNat - 48)
    if m ≤ maxWord then ((takeDigits m rest).1, (takeDigits m rest).2 + 1) else (n, 0)

/-- A power of ten. -/
def powerOfTen (e : Nat) : Float := Float.ofScientific 1 false e

/-- Scales a number by a power of ten; `none` if the result is too large. -/
def scale (x : Float) (e : Int) : Option Float :=
  if x == 0 then some x
  else if 308 < e then none
  else if 0 ≤ e then
    let y := x * powerOfTen e.toNat
    if y.isInf then none else some y
  else if -308 ≤ e then some (x / powerOfTen (-e).toNat)
  else if -616 ≤ e then some (x / powerOfTen 308 / powerOfTen (-e - 308).toNat)
  else some 0

/-- The number without its sign. -/
def magnitude? (n : Number) : Option Float :=
  let (head, taken) := takeDigits 0 n.whole
  let dropped := n.whole.length - taken
  let (digits, places) := takeDigits head (n.fraction.getD [])
  let shift : Int := (dropped : Int) - places
  match n.exponent with
  | none => scale (Float.ofNat digits) shift
  | some (negative, ds) =>
    let e := Decimal.digitsValue ds
    if Int32.maxValue.toInt < e then (if digits = 0 ∨ negative then some 0 else none)
    else scale (Float.ofNat digits) (if negative then shift - e else shift + e)

/-- The number in floating point. -/
def toFloat? (n : Number) : Option Float := n.magnitude?.map fun x => if n.negative then -x else x

/-- The value of a number written without a point or an exponent. Minus zero is not a whole number. -/
def toInt? (n : Number) : Option Int :=
  if n.fraction.isSome || n.exponent.isSome then none
  else
    let v := Decimal.digitsValue n.whole
    if n.negative then (if v = 0 then none else some (-v)) else some v

/-- A whole number from zero to `most`. -/
def toNat? (n : Number) (most : Nat) : Option Nat :=
  match n.toInt? with
  | some (.ofNat v) => if v ≤ most then some v else none
  | _ => none

end Number

end FraudScreen.Json
