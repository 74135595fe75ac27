import FraudScreen.Proofs.Decimal.Sum
import FraudScreen.Rules.Ruleset

/-!
# The order of weights

The key by which rules are sorted orders weights by what they are: numbers by size, and of the two zeros the negative
one first; before them what is no number and has a minus sign, after them what is none and has no sign, each by its
payload (`orderKey_le_iff`). Weights with one key are the same.
-/
namespace FraudScreen

namespace Decimal

/-- The place of a floating-point number among all: by size, what is no number after infinity, and of the two zeros
the negative one first. -/
noncomputable def Kind.rank : Kind → EReal ×ₗ ℕ
  | .infinite true => toLex (⊥, 0)
  | .finite b => toLex ((b.value : ℝ), if b.negative then 0 else 1)
  | .infinite false => toLex (⊤, 1)
  | .nan => toLex (⊤, 2)

/-! ## Magnitudes -/

theorem leadingBit_eq : leadingBit = 4503599627370496 := rfl

/-- A finite magnitude in units of the least one, by its fields. -/
def units (fields : ℕ) : ℕ :=
  if fields / leadingBit = 0 then fields % leadingBit
  else (leadingBit + fields % leadingBit) * 2 ^ (fields / leadingBit - 1)

/-- Fields are in order of the magnitudes: after the last fraction the exponent goes up by one, and the fraction
starts again. -/
theorem units_strictMono : StrictMono units := by
  refine strictMono_nat_of_lt_succ fun n => ?_
  have hL := leadingBit_eq
  have hf : n % leadingBit < leadingBit := Nat.mod_lt _ (by decide)
  rcases Nat.lt_or_ge (n % leadingBit + 1) leadingBit with h | h
  · have hdiv : (n + 1) / leadingBit = n / leadingBit := by rw [hL] at *; omega
    have hmod : (n + 1) % leadingBit = n % leadingBit + 1 := by rw [hL] at *; omega
    rw [units, units, hdiv, hmod]
    split
    · exact Nat.lt_succ_self _
    · exact Nat.mul_lt_mul_of_pos_right (Nat.lt_succ_self _) (Nat.two_pow_pos _)
  · have hdiv : (n + 1) / leadingBit = n / leadingBit + 1 := by rw [hL] at *; omega
    have hmod : (n + 1) % leadingBit = 0 := by rw [hL] at *; omega
    rw [units, units, hdiv, hmod, if_neg (Nat.succ_ne_zero _), Nat.add_zero, Nat.add_sub_cancel]
    split
    · rename_i he
      rw [he, Nat.pow_zero, Nat.mul_one]
      exact hf
    · rename_i he
      obtain ⟨e, he⟩ := Nat.exists_eq_succ_of_ne_zero he
      rw [he, Nat.succ_sub_one, Nat.pow_succ, Nat.mul_comm (2 ^ e), ← Nat.mul_assoc]
      exact Nat.mul_lt_mul_of_pos_right (by omega) (Nat.two_pow_pos _)

/-- The fields of infinity. -/
def infinityFields : ℕ := 2047 * leadingBit

/-- The size of what has the given fields, without its sign. -/
noncomputable def size (fields : ℕ) : EReal :=
  if fields < infinityFields then ((units fields * 2 ^ (-1074 : ℤ) : ℝ) : EReal) else ⊤

theorem size_of_lt {n : ℕ} (h : n < infinityFields) : size n = ((units n * 2 ^ (-1074 : ℤ) : ℝ) : EReal) := if_pos h

theorem size_of_le {n : ℕ} (h : infinityFields ≤ n) : size n = ⊤ := if_neg (Nat.not_lt.2 h)

theorem size_nonneg (n : ℕ) : 0 ≤ size n := by
  unfold size
  split
  · exact EReal.coe_nonneg.2 (by positivity)
  · exact le_top

theorem size_lt_size {n m : ℕ} (h : n < m) (hm : m ≤ infinityFields) : size n < size m := by
  rw [size_of_lt (h.trans_le hm)]
  rcases hm.lt_or_eq with hm | rfl
  · rw [size_of_lt hm, EReal.coe_lt_coe_iff]
    have hunits : (units n : ℝ) < units m := Nat.cast_lt.2 (units_strictMono h)
    exact mul_lt_mul_of_pos_right hunits (zpow_pos two_pos _)
  · rw [size_of_le le_rfl]
    exact EReal.coe_lt_top _

/-! ## Fields of a number -/

/-- The fields of a number apart from its sign. -/
def fieldsOf (bits : UInt64) : ℕ := bits.toNat % 9223372036854775808

/-- The number has a minus sign. -/
def isNegative (bits : UInt64) : Bool := bits.toNat.testBit 63

theorem isNegative_eq (bits : UInt64) : isNegative bits = decide (9223372036854775808 ≤ bits.toNat) := by
  have hlt := bits.toNat_lt
  rw [isNegative, Nat.testBit_eq_decide_div_mod_eq]
  congr 1
  exact propext ⟨fun h => by omega, fun h => by omega⟩

theorem eq_of_fields {v w : UInt64} (hs : isNegative v = isNegative w) (hf : fieldsOf v = fieldsOf w) : v = w := by
  have hv := v.toNat_lt
  have hw := w.toNat_lt
  rw [isNegative_eq, isNegative_eq, decide_eq_decide] at hs
  unfold fieldsOf at hf
  exact UInt64.toNat_inj.1 (by omega)

theorem exponent_eq (bits : UInt64) : bits.toNat / leadingBit % 2048 = fieldsOf bits / leadingBit := by
  have hL := leadingBit_eq
  have hbits := bits.toNat_lt
  rw [fieldsOf, hL]
  omega

theorem mantissa_eq (bits : UInt64) : bits.toNat % leadingBit = fieldsOf bits % leadingBit := by
  have hL := leadingBit_eq
  have hbits := bits.toNat_lt
  rw [fieldsOf, hL]
  omega

/-- Bits whose fields are not beyond those of infinity are those of a number. -/
theorem toBits_ofBits {bits : UInt64} (h : fieldsOf bits ≤ infinityFields) : (Float.ofBits bits).toBits = bits := by
  have hvalid : Float.Model.Format.binary64.Valid bits.toBitVec := by
    refine ⟨fun hexponent hmantissa => absurd ?_ hmantissa⟩
    have he := (unpackExponent_eq_iff bits (n := 2047) (by decide)).1 hexponent
    rw [exponent_eq] at he
    rw [unpackMantissa_eq_zero_iff, mantissa_eq]
    have hinf : infinityFields = 2047 * leadingBit := rfl
    have hL := leadingBit_eq
    rw [hL] at he hinf ⊢
    omega
  exact UInt64.toBitVec_inj.1 (pack_unpack hvalid)

/-- What a number is, by its fields and its sign. -/
theorem kindOf_eq (x : Float) : kindOf x =
    let n := fieldsOf x.toBits
    if n / leadingBit = 2047 then if n % leadingBit = 0 then .infinite (isNegative x.toBits) else .nan
    else if n / leadingBit = 0 then .finite ⟨isNegative x.toBits, n % leadingBit, -1074⟩
    else .finite ⟨isNegative x.toBits, leadingBit + n % leadingBit, (n / leadingBit : ℕ) - 1075⟩ := by
  unfold kindOf
  dsimp only
  rw [exponent_eq, mantissa_eq]
  rfl

/-- A finite number as its fields give it is their magnitude, with its sign. -/
theorem value_eq_size {b : Binary} {n : ℕ} (hn : n < infinityFields)
    (h : n / leadingBit = 0 ∧ b.mantissa = n % leadingBit ∧ b.exponent = -1074 ∨
      n / leadingBit ≠ 0 ∧ b.mantissa = leadingBit + n % leadingBit ∧ b.exponent = (n / leadingBit : ℕ) - 1075) :
    ((b.value : ℝ) : EReal) = if b.negative then -size n else size n := by
  have hmagnitude : (b.mantissa * 2 ^ b.exponent : ℝ) = units n * 2 ^ (-1074 : ℤ) := by
    obtain ⟨he, hm, hp⟩ | ⟨he, hm, hp⟩ := h
    · rw [units, if_pos he, hm, hp]
    · obtain ⟨e, he'⟩ := Nat.exists_eq_succ_of_ne_zero he
      have hexponent : b.exponent = (e : ℤ) + -1074 := by rw [hp, he']; push_cast; ring
      rw [units, if_neg he, hm, hexponent, he', Nat.succ_sub_one, zpow_add₀ two_ne_zero, zpow_natCast, ← mul_assoc]
      push_cast
      rfl
  rw [size_of_lt hn, ← hmagnitude, Binary.value]
  cases b.negative <;> simp

/-- The place of a number by its fields. -/
theorem rank_kindOf {x : Float} (h : fieldsOf x.toBits ≤ infinityFields) :
    (kindOf x).rank =
      toLex (if isNegative x.toBits then -size (fieldsOf x.toBits) else size (fieldsOf x.toBits),
        if isNegative x.toBits then 0 else 1) := by
  have hL := leadingBit_eq
  have hinf : infinityFields = 2047 * leadingBit := rfl
  have hfinite : fieldsOf x.toBits / leadingBit ≠ 2047 → fieldsOf x.toBits < infinityFields := by
    rw [hL] at *
    omega
  rw [kindOf_eq]
  dsimp only
  split
  · rename_i he
    have hn : fieldsOf x.toBits = infinityFields := by
      rw [hL] at *
      omega
    rw [hn, size_of_le le_rfl, if_pos (by decide)]
    cases isNegative x.toBits <;> rfl
  · rename_i he
    split
    · rename_i hz
      rw [Kind.rank, value_eq_size (hfinite he) (.inl ⟨hz, rfl, rfl⟩)]
    · rename_i hz
      rw [Kind.rank, value_eq_size (hfinite he) (.inr ⟨hz, rfl, rfl⟩)]

end Decimal

namespace Rules

open Decimal

/-- How far a weight is from being a number: zero if it is one, otherwise its payload with its sign. -/
def Weight.payload (w : Weight) : ℤ :=
  let beyond : ℤ := (fieldsOf w.bits - infinityFields : ℕ)
  if isNegative w.bits then -beyond else beyond

/-- The place of a weight among all: what is no number by its payload, the numbers by size in between. -/
noncomputable def Weight.rank (w : Weight) : ℤ ×ₗ EReal ×ₗ ℕ := toLex (w.payload, (kindOf w.toFloat).rank)

theorem orderKey_eq (w : Weight) :
    orderKey w = if isNegative w.bits then -(fieldsOf w.bits : ℤ) - 1 else fieldsOf w.bits := by
  have hlt := w.bits.toNat_lt
  have hmax : Int64.maxValue.toInt = 9223372036854775807 := rfl
  have hs : w.bits.toNat.testBit 63 = isNegative w.bits := rfl
  unfold orderKey
  dsimp only
  rw [hs, hmax, isNegative_eq, fieldsOf]
  by_cases h : 9223372036854775808 ≤ w.bits.toNat
  · simp only [h, decide_true, if_true]
    omega
  · simp only [h, decide_false, Bool.false_eq_true, if_false]
    omega

/-- Weights with one key are the same. -/
theorem orderKey_injective : Function.Injective orderKey := by
  rintro ⟨v⟩ ⟨w⟩ h
  rw [orderKey_eq, orderKey_eq] at h
  have hs : isNegative v = isNegative w := by
    cases hv : isNegative v <;> cases hw : isNegative w <;> simp only [hv, hw] at h ⊢ <;> simp at h <;> omega
  dsimp only at h
  rw [hs] at h
  refine congrArg Weight.mk (eq_of_fields hs ?_)
  split at h <;> omega

/-- The key of a number is the smaller the smaller the number is. -/
theorem rank_kindOf_lt {v w : Weight} (hv : fieldsOf v.bits ≤ infinityFields) (hw : fieldsOf w.bits ≤ infinityFields)
    (h : orderKey v < orderKey w) : (kindOf v.toFloat).rank < (kindOf w.toFloat).rank := by
  have hvbits : v.toFloat.toBits = v.bits := toBits_ofBits hv
  have hwbits : w.toFloat.toBits = w.bits := toBits_ofBits hw
  rw [rank_kindOf (hvbits ▸ hv), rank_kindOf (hwbits ▸ hw), hvbits, hwbits, Prod.Lex.toLex_lt_toLex]
  rw [orderKey_eq, orderKey_eq] at h
  dsimp only
  cases hsv : isNegative v.bits <;> cases hsw : isNegative w.bits <;>
    simp only [hsv, hsw, if_true, Bool.false_eq_true, if_false] at h ⊢
  case true.true =>
    -- of two numbers with a minus sign the one of the larger size comes first
    exact .inl (EReal.neg_lt_neg_iff.2 (size_lt_size (by omega) hv))
  case true.false =>
    have hle : -size (fieldsOf v.bits) ≤ size (fieldsOf w.bits) :=
      (EReal.neg_le_zero.2 (size_nonneg _)).trans (size_nonneg _)
    exact hle.lt_or_eq.imp_right fun he => ⟨he, by decide⟩
  case false.true => omega
  case false.false => exact .inl (size_lt_size (by omega) hw)

/-- A smaller key is the key of what comes before. -/
theorem rank_lt_of_orderKey_lt {v w : Weight} (h : orderKey v < orderKey w) : v.rank < w.rank := by
  rw [Weight.rank, Weight.rank, Prod.Lex.toLex_lt_toLex]
  dsimp only
  by_cases hnumbers : fieldsOf v.bits ≤ infinityFields ∧ fieldsOf w.bits ≤ infinityFields
  · obtain ⟨hv, hw⟩ := hnumbers
    refine .inr ⟨?_, rank_kindOf_lt hv hw h⟩
    simp [Weight.payload, Nat.sub_eq_zero_of_le hv, Nat.sub_eq_zero_of_le hw]
  · -- if one of the two is no number, the payloads are already in order
    left
    rw [orderKey_eq, orderKey_eq] at h
    unfold Weight.payload
    dsimp only
    cases hsv : isNegative v.bits <;> cases hsw : isNegative w.bits <;>
      simp only [hsv, hsw, if_true, Bool.false_eq_true, if_false] at h ⊢ <;> omega

/-- **The order of weights.** Weights are sorted by what they are. -/
theorem orderKey_le_iff {v w : Weight} : orderKey v ≤ orderKey w ↔ v.rank ≤ w.rank := by
  refine ⟨fun h => ?_, fun h => ?_⟩
  · rcases h.lt_or_eq with hlt | he
    · exact (rank_lt_of_orderKey_lt hlt).le
    · rw [orderKey_injective he]
  · by_contra hlt
    exact (rank_lt_of_orderKey_lt (Int.lt_of_not_ge hlt)).not_ge h

/-- What zero divided by zero is on some machines comes before minus infinity, and what it is on others after
infinity. -/
example : orderKey ⟨0xFFF8000000000000⟩ < orderKey (.ofFloat (-1 / 0)) ∧
    orderKey (.ofFloat (1 / 0)) < orderKey ⟨0x7FF8000000000000⟩ := by
  decide +kernel

end Rules

end FraudScreen
