import Mathlib
import FraudScreen.Decimal.Binary

/-!
# The numbers behind floating-point numbers

A floating-point number is an infinity, a rational number, or no number at all. Its parts are in a form of which
there is one for each number, up to the sign of zero (`Binary.value_eq_iff`), so that comparing parts compares
numbers: `beq_iff_number?`.
-/
namespace FraudScreen.Decimal

/-- An infinity or a rational number. -/
inductive Number where
  | infinite (negative : Bool)
  | rational (q : ℚ)
deriving DecidableEq

/-- The rational number of a sign, a mantissa and an exponent. -/
def Binary.value (b : Binary) : ℚ := (if b.negative then -1 else 1) * (b.mantissa * 2 ^ b.exponent)

/-- The number that a floating-point number is, if it is one. Zero is the same number with either sign. -/
def Kind.number? : Kind → Option Number
  | .nan => none
  | .infinite negative => some (.infinite negative)
  | .finite b => some (.rational b.value)

/-! ## Canonical parts -/

/-- The parts as the 64-bit format has them: the leading bit is missing only below the least exponent. -/
structure Binary.Canonical (b : Binary) : Prop where
  least : -1074 ≤ b.exponent
  bounded : b.mantissa < 2 * leadingBit
  full : -1074 < b.exponent → leadingBit ≤ b.mantissa

namespace Binary

variable {a b : Binary}

theorem value_eq_zero_iff : b.value = 0 ↔ b.mantissa = 0 := by
  have hp : (2 : ℚ) ^ b.exponent ≠ 0 := zpow_ne_zero _ two_ne_zero
  unfold value
  cases b.negative <;> simp [hp]

/-- The sign of a number other than zero. -/
theorem value_neg_iff (h : b.mantissa ≠ 0) : b.value < 0 ↔ b.negative = true := by
  have hm : (0 : ℚ) < b.mantissa * 2 ^ b.exponent :=
    mul_pos (Nat.cast_pos.2 (Nat.pos_of_ne_zero h)) (zpow_pos two_pos _)
  unfold value
  cases b.negative with
  | false => simp [hm.le]
  | true => simp [hm]

theorem abs_value : |b.value| = b.mantissa * 2 ^ b.exponent := by
  have hm : (0 : ℚ) ≤ b.mantissa * 2 ^ b.exponent := mul_nonneg (Nat.cast_nonneg _) (zpow_pos two_pos _).le
  unfold value
  cases b.negative with
  | false => simp [abs_of_nonneg hm]
  | true => simp [abs_of_nonneg hm]

/-- Of two canonical forms of one magnitude neither has the smaller exponent: the other mantissa would be too
large. -/
theorem Canonical.exponent_le (ha : a.Canonical) (hb : b.Canonical)
    (h : (a.mantissa * 2 ^ a.exponent : ℚ) = b.mantissa * 2 ^ b.exponent) : b.exponent ≤ a.exponent := by
  by_contra hlt
  obtain ⟨k, hk⟩ : ∃ k : ℕ, b.exponent = a.exponent + (k + 1 : ℕ) :=
    ⟨(b.exponent - a.exponent - 1).toNat, by omega⟩
  have hp : (2 : ℚ) ^ a.exponent ≠ 0 := zpow_ne_zero _ two_ne_zero
  have hm : a.mantissa = b.mantissa * 2 ^ (k + 1) := by
    rw [hk, zpow_add₀ two_ne_zero, zpow_natCast, mul_comm ((2 : ℚ) ^ a.exponent), ← mul_assoc] at h
    exact_mod_cast mul_right_cancel₀ hp h
  have hfull := hb.full (by have := ha.least; omega)
  have htwo : 2 ≤ 2 ^ (k + 1) := Nat.le_self_pow (Nat.succ_ne_zero k) 2
  have hlarge := Nat.mul_le_mul hfull htwo
  have hbounded := ha.bounded
  omega

/-- **Canonical parts of one number are the same**, but for the sign of zero. -/
theorem value_eq_iff (ha : a.Canonical) (hb : b.Canonical) :
    a.value = b.value ↔ a = b ∨ a.mantissa = 0 ∧ b.mantissa = 0 := by
  refine ⟨fun h => ?_, ?_⟩
  · by_cases hz : a.mantissa = 0
    · exact .inr ⟨hz, value_eq_zero_iff.1 (h ▸ value_eq_zero_iff.2 hz)⟩
    have hzb : b.mantissa ≠ 0 := fun hb => hz (value_eq_zero_iff.1 (h ▸ value_eq_zero_iff.2 hb))
    have hmagnitude : (a.mantissa * 2 ^ a.exponent : ℚ) = b.mantissa * 2 ^ b.exponent := by
      rw [← abs_value, ← abs_value, h]
    have he : a.exponent = b.exponent :=
      le_antisymm (hb.exponent_le ha hmagnitude.symm) (ha.exponent_le hb hmagnitude)
    have hm : a.mantissa = b.mantissa := by
      rw [he] at hmagnitude
      exact_mod_cast mul_right_cancel₀ (zpow_ne_zero b.exponent two_ne_zero) hmagnitude
    have hs : a.negative = b.negative := by
      rw [Bool.eq_iff_iff, ← value_neg_iff hz, ← value_neg_iff hzb, h]
    obtain ⟨sa, ma, ea⟩ := a
    obtain ⟨sb, mb, eb⟩ := b
    obtain ⟨rfl, rfl, rfl⟩ : sa = sb ∧ ma = mb ∧ ea = eb := ⟨hs, hm, he⟩
    exact .inl rfl
  · rintro (rfl | ⟨hza, hzb⟩)
    · rfl
    · rw [value_eq_zero_iff.2 hza, value_eq_zero_iff.2 hzb]

end Binary

/-! ## The fields of the format -/

open Float.Model (UnpackedFloat Format)
open Float.Model.UnpackedFloat

/-- The sign of a number. -/
def signOf (negative : Bool) : Sign := if negative then .negative else .positive

/-- What a floating-point number is, in the terms in which comparisons are defined. -/
def Kind.unpacked : Kind → UnpackedFloat
  | .nan => .notANumber
  | .infinite negative => .infinity (signOf negative)
  | .finite b =>
    if h : 0 < b.mantissa then .finite (signOf b.negative) b.mantissa b.exponent h
    else .zero (signOf b.negative)

section

variable (bits : UInt64)

theorem toNat_unpackMantissa :
    (@unpackMantissa Format.binary64 bits.toBitVec).toNat = bits.toNat % leadingBit := by
  simp [unpackMantissa, leadingBit, Nat.shiftLeft_eq]

theorem toNat_unpackExponent :
    (@unpackExponent Format.binary64 bits.toBitVec).toNat = bits.toNat / leadingBit % 2048 := by
  simp [unpackExponent, leadingBit, Nat.shiftLeft_eq, Nat.shiftRight_eq_div_pow]

theorem ofBitVec_unpackSign :
    Sign.ofBitVec (@unpackSign Format.binary64 bits.toBitVec) = signOf (bits.toNat.testBit 63) := by
  have h : @unpackSign Format.binary64 bits.toBitVec = 0#1 ↔ bits.toNat.testBit 63 = false := by
    rw [← BitVec.toNat_inj]
    simp [unpackSign, Nat.testBit, Nat.shiftRight_eq_div_pow]
  unfold Sign.ofBitVec signOf
  cases hb : bits.toNat.testBit 63 with
  | false => rw [if_pos (h.2 hb)]; rfl
  | true => rw [if_neg fun he => by rw [h.1 he] at hb; cases hb]; rfl

theorem unpackExponent_eq_iff {n : Nat} (hn : n < 2 ^ 11) :
    @unpackExponent Format.binary64 bits.toBitVec = BitVec.ofNat 11 n ↔
      bits.toNat / leadingBit % 2048 = n := by
  rw [← BitVec.toNat_inj, toNat_unpackExponent]
  change _ = n % 2 ^ 11 ↔ _
  rw [Nat.mod_eq_of_lt hn]

theorem unpackMantissa_eq_zero_iff :
    @unpackMantissa Format.binary64 bits.toBitVec = 0#52 ↔ bits.toNat % leadingBit = 0 := by
  rw [← BitVec.toNat_inj, toNat_unpackMantissa]
  rfl

theorem toNat_append_unpackMantissa :
    (1#1 ++ @unpackMantissa Format.binary64 bits.toBitVec).toNat =
      leadingBit + bits.toNat % leadingBit := by
  rw [BitVec.toNat_append, ← Nat.shiftLeft_add_eq_or_of_lt (BitVec.isLt _), toNat_unpackMantissa]
  rfl

end

/-- The format is read in the same way by comparisons and by `kindOf`. -/
theorem unpack_eq_unpacked (x : Float) : x.toModel.unpack = (kindOf x).unpacked := by
  have hlast := unpackExponent_eq_iff x.toBits (n := 2047) (by decide)
  have hleast := unpackExponent_eq_iff x.toBits (n := 0) (by decide)
  have hmantissa := unpackMantissa_eq_zero_iff x.toBits
  change UnpackedFloat.unpack Format.binary64 x.toBits.toBitVec = _
  unfold UnpackedFloat.unpack kindOf
  simp only [ofBitVec_unpackSign, toNat_unpackExponent]
  change (if @unpackExponent Format.binary64 x.toBits.toBitVec = 2047#11 then _ else _) = _
  split
  · -- the last exponent is that of the infinities and of what is no number
    rename_i he
    rw [if_pos (hlast.1 he)]
    split
    · rename_i hm
      rw [if_pos (hmantissa.1 hm)]
      rfl
    · rename_i hm
      rw [if_neg fun h => hm (hmantissa.2 h)]
      rfl
  rename_i he
  rw [if_neg fun h => he (hlast.2 h)]
  split
  · -- with the least exponent the leading bit is not added
    rename_i he
    rw [if_pos (hleast.1 he), hleast.1 he]
    split
    · rename_i hm
      simp only [Kind.unpacked, hmantissa.1 hm, Nat.lt_irrefl, dite_false]
    · rename_i hm
      have hpos : 0 < x.toBits.toNat % leadingBit := Nat.pos_of_ne_zero fun h => hm (hmantissa.2 h)
      simp only [Kind.unpacked, toNat_unpackMantissa, hpos, dite_true]
      rfl
  · rename_i he
    have hpos : 0 < leadingBit + x.toBits.toNat % leadingBit := Nat.lt_of_lt_of_le (by decide) (Nat.le_add_right ..)
    rw [if_neg fun h => he (hleast.2 h), Kind.unpacked, dif_pos hpos, finite.injEq]
    exact ⟨rfl, toNat_append_unpackMantissa _, rfl⟩

/-! ## Comparing -/

/-- The parts of a finite number are canonical. -/
def Kind.Canonical : Kind → Prop
  | .finite b => b.Canonical
  | _ => True

theorem canonical_kindOf (x : Float) : (kindOf x).Canonical := by
  have hm : x.toBits.toNat % leadingBit < leadingBit := Nat.mod_lt _ (by decide)
  unfold kindOf
  dsimp only
  split
  · split <;> trivial
  split
  · exact ⟨le_rfl, by dsimp only; omega, fun h => absurd h (lt_irrefl _)⟩
  · exact ⟨by dsimp only; omega, by dsimp only; omega, fun _ => Nat.le_add_right ..⟩

theorem compare_signOf (s t : Bool) : compare (signOf s) (signOf t) = .eq ↔ s = t := by
  cases s <;> cases t <;> decide

/-- Parts are compared one by one, but the sign of zero is not. -/
theorem compare_finite {a b : Binary} (ha : a.Canonical) (hb : b.Canonical) :
    (Kind.finite a).unpacked.compare (Kind.finite b).unpacked = some .eq ↔ a.value = b.value := by
  rw [Binary.value_eq_iff ha hb]
  obtain ⟨s, m, e⟩ := a
  obtain ⟨t, n, f⟩ := b
  have hthen : (compare e f).then (compare m n) = .eq ↔ m = n ∧ e = f := by
    rw [Ordering.then_eq_eq, compare_eq_iff_eq, compare_eq_iff_eq, and_comm]
  rcases Nat.eq_zero_or_pos m with rfl | hm <;> rcases Nat.eq_zero_or_pos n with rfl | hn
  · simp [Kind.unpacked, UnpackedFloat.compare]
  · cases t <;> simp [Kind.unpacked, UnpackedFloat.compare, signOf, hn, hn.ne, hn.ne']
  · cases s <;> simp [Kind.unpacked, UnpackedFloat.compare, signOf, hm, hm.ne']
  · cases s <;> cases t <;>
      simp [Kind.unpacked, UnpackedFloat.compare, signOf, hm, hn, hm.ne', hn.ne', hthen, Ordering.swap_eq_eq]

/-- A finite number has the form of a zero or of another number. -/
theorem Kind.unpacked_finite (b : Binary) : (Kind.finite b).unpacked = .zero (signOf b.negative) ∨
    ∃ h, (Kind.finite b).unpacked = .finite (signOf b.negative) b.mantissa b.exponent h := by
  by_cases h : 0 < b.mantissa
  · exact .inr ⟨h, dif_pos h⟩
  · exact .inl (dif_neg h)

theorem compare_unpacked {k l : Kind} (hk : k.Canonical) (hl : l.Canonical) :
    k.unpacked.compare l.unpacked = some .eq ↔ ∃ p, k.number? = some p ∧ l.number? = some p := by
  cases k with
  | nan => simp [Kind.unpacked, Kind.number?, UnpackedFloat.compare]
  | infinite s =>
    cases l with
    | nan => simp [Kind.unpacked, Kind.number?, UnpackedFloat.compare]
    | infinite t => cases s <;> cases t <;> simp [Kind.unpacked, Kind.number?, UnpackedFloat.compare, compare_signOf]
    | finite b =>
      obtain h | ⟨_, h⟩ := Kind.unpacked_finite b <;> rw [h] <;> cases s <;>
        simp [Kind.unpacked, Kind.number?, UnpackedFloat.compare, signOf]
  | finite a =>
    cases l with
    | finite b =>
      rw [compare_finite hk hl]
      simp [Kind.number?, eq_comm]
    | nan =>
      obtain h | ⟨_, h⟩ := Kind.unpacked_finite a <;> rw [h] <;>
        simp [Kind.unpacked, Kind.number?, UnpackedFloat.compare]
    | infinite t =>
      obtain h | ⟨_, h⟩ := Kind.unpacked_finite a <;> rw [h] <;> cases t <;>
        simp [Kind.unpacked, Kind.number?, UnpackedFloat.compare, signOf]

/-- **Floating-point numbers are equal if they are one number.** -/
theorem beq_iff_number? (x y : Float) :
    x == y ↔ ∃ p, (kindOf x).number? = some p ∧ (kindOf y).number? = some p := by
  rw [← compare_unpacked (canonical_kindOf x) (canonical_kindOf y), ← unpack_eq_unpacked, ← unpack_eq_unpacked]
  change (x.toModel.unpack.compare y.toModel.unpack == some .eq) = true ↔ _
  exact beq_iff_eq

end FraudScreen.Decimal
