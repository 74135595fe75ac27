import FraudScreen.Decimal.Binary

/-!
# Reading numbers

A decimal text is a natural number times a power of ten; it denotes the floating-point number nearest
to it. Exponents far outside the range are decided by size alone, so that no huge power is computed.
-/
namespace FraudScreen.Decimal

/-- The value of a run of decimal digits. -/
def digitsValue (ds : List Char) : Nat := ds.foldl (fun n c => 10 * n + (c.toNat - 48)) 0

/-- Reads a natural number from zero to `most`: digits, perhaps after a plus sign. -/
def readNat? (most : Nat) (cs : List Char) : Option Nat :=
  let ds := match cs with
    | '+' :: rest => rest
    | _ => cs
  let n := digitsValue ds
  if ds.isEmpty || !ds.all Char.isDigit || most < n then none else some n

/-- The value of a hexadecimal digit. -/
def hexValue? (c : Char) : Option Nat :=
  if '0' ≤ c ∧ c ≤ '9' then some (c.toNat - 48)
  else if 'a' ≤ c ∧ c ≤ 'f' then some (c.toNat - 87)
  else if 'A' ≤ c ∧ c ≤ 'F' then some (c.toNat - 55)
  else none

/-- The value of a run of hexadecimal digits, if it is one. -/
def hexValueOf? (ds : List Char) : Option Nat :=
  ds.foldlM (fun n c => (hexValue? c).map (16 * n + ·)) 0

/-- The number nearest to `digits · 10 ^ exponent`. -/
def nearest (digits : Nat) (exponent : Int) : Float :=
  if digits = 0 then 0
  else
    let order := exponent + (Nat.toDigits 10 digits).length
    if 400 < order then Float.ofBits 0x7FF0000000000000
    else if order < -400 then 0
    else Float.ofScientific digits (exponent < 0) exponent.natAbs

/-- A decimal text: digits with at most one point and at least one digit, then perhaps an exponent
with at least one digit. -/
structure Literal where
  whole : List Char
  fraction : List Char
  exponentNegative : Bool
  exponent : List Char

/-- The exponent part of a decimal text, which must be empty or complete. -/
def readExponent (cs : List Char) : Option (Bool × List Char) :=
  match cs with
  | [] => some (false, [])
  | e :: rest =>
    if e = 'e' ∨ e = 'E' then
      let (negative, digits) := match rest with
        | '-' :: ds => (true, ds)
        | '+' :: ds => (false, ds)
        | ds => (false, ds)
      if digits.isEmpty || !digits.all Char.isDigit then none else some (negative, digits)
    else none

/-- Reads an unsigned decimal text. -/
def Literal.read? (cs : List Char) : Option Literal :=
  let (whole, rest) := cs.span Char.isDigit
  let (fraction, rest) := match rest with
    | '.' :: more => more.span Char.isDigit
    | _ => ([], rest)
  if whole.isEmpty && fraction.isEmpty then none
  else (readExponent rest).map fun (negative, exponent) => ⟨whole, fraction, negative, exponent⟩

/-- The number a decimal text denotes. -/
def Literal.value (l : Literal) : Float :=
  let e : Int := digitsValue l.exponent
  nearest (digitsValue (l.whole ++ l.fraction))
    ((if l.exponentNegative then -e else e) - l.fraction.length)

/-- The number after the sign: a decimal, or a name of infinity or of what is no number. -/
def readMagnitude? (cs : List Char) : Option Float :=
  let word := cs.map Char.toLower
  if word = ['i', 'n', 'f'] ∨ word = ['i', 'n', 'f', 'i', 'n', 'i', 't', 'y'] then
    some (Float.ofBits 0x7FF0000000000000)
  else if word = ['n', 'a', 'n'] then some (0 / 0)
  else (Literal.read? cs).map Literal.value

/-- Reads a number with an optional sign. -/
def read? (cs : List Char) : Option Float :=
  match cs with
  | '-' :: rest => (readMagnitude? rest).map (- ·)
  | '+' :: rest => readMagnitude? rest
  | rest => readMagnitude? rest

end FraudScreen.Decimal
