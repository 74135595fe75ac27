import FraudScreen.Decimal.Shortest

/-!
# Number texts

How a floating-point number is written: always in positions, or with an exponent when it is very
large or very small. Both forms use the shortest decimal.
-/
namespace FraudScreen.Decimal

/-- Decimal digits of a natural number. -/
def natDigits (n : Nat) : List Char := Nat.toDigits 10 n

/-- A decimal in positions, with at least `places` digits after the point. -/
def positional (d : Scaled) (places : Nat) : List Char :=
  let ds := natDigits d.digits
  let whole :=
    if 0 ≤ d.exponent then ds ++ List.replicate d.exponent.toNat '0'
    else
      let cut := (-d.exponent).toNat
      let padded := List.replicate (cut + 1 - ds.length) '0' ++ ds
      padded.take (padded.length - cut)
  let fraction :=
    if 0 ≤ d.exponent then []
    else
      let cut := (-d.exponent).toNat
      let padded := List.replicate (cut + 1 - ds.length) '0' ++ ds
      padded.drop (padded.length - cut)
  let filled := fraction ++ List.replicate (places - fraction.length) '0'
  if filled.isEmpty then whole else whole ++ '.' :: filled

/-- The exponent of the leading digit. -/
def Scaled.order (d : Scaled) : Int := d.exponent + (natDigits d.digits).length - 1

/-- A decimal with one digit before the point and an exponent after `e`. -/
def scientific (d : Scaled) : List Char :=
  let exponent := (toString d.order).toList
  match natDigits d.digits with
  | [] => '0' :: 'e' :: exponent
  | [c] => c :: 'e' :: exponent
  | c :: rest => c :: '.' :: rest ++ 'e' :: exponent

/-- The choices a number format makes. -/
structure Format where
  /-- Digits after the point that are always written. -/
  places : Nat
  /-- Whether a decimal of this order is written in positions. -/
  inPositions : Int → Bool

/-- Amounts, scores and weights: always in positions, whole numbers without a point. -/
def plain : Format := ⟨0, fun _ => true⟩

/-- Numbers quoted in evaluation errors: a point always, an exponent from ten to the sixteenth on
and below one ten-thousandth. -/
def explicit : Format := ⟨1, fun order => -4 ≤ order && order < 16⟩

/-- Writes a number. -/
def Format.write (f : Format) (x : Float) : List Char :=
  match kindOf x with
  | .nan => ['N', 'a', 'N']
  | .infinite negative => (if negative then ['-'] else []) ++ ['i', 'n', 'f']
  | .finite b =>
    let d := b.shortest
    let body :=
      if d.digits = 0 || f.inPositions d.order then positional d f.places else scientific d
    (if b.negative then ['-'] else []) ++ body

/-- A number in positions, as scores are shown. -/
def write (x : Float) : String := String.ofList (plain.write x)

/-- A number as evaluation errors quote it. -/
def writeExplicit (x : Float) : String := String.ofList (explicit.write x)

end FraudScreen.Decimal
