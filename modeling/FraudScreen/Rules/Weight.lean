/-!
# Weights

What a rule adds to a score when it triggers: a floating-point number by its 64 bits. Arithmetic does not tell apart
what is no number, but the order of weights does, by the sign and the other bits.
-/
namespace FraudScreen.Rules

structure Weight where
  bits : UInt64
deriving DecidableEq, Repr

namespace Weight

def ofFloat (x : Float) : Weight := ⟨x.toBits⟩

/-- The weight as scores count it. -/
def toFloat (w : Weight) : Float := .ofBits w.bits

instance (n : Nat) : OfNat Weight n := ⟨ofFloat (OfNat.ofNat n)⟩

instance : OfScientific Weight := ⟨fun m s e => ofFloat (OfScientific.ofScientific m s e)⟩

end Weight

/-- The place of a weight in the total order of floating-point numbers: what is no number and has a minus sign, minus
infinity, the finite numbers with minus zero before zero, infinity, and what is no number and has no sign. -/
def orderKey (w : Weight) : Int :=
  let bits : Nat := w.bits.toNat
  if bits.testBit 63 then Int64.maxValue.toInt - bits else bits

end FraudScreen.Rules
