import FraudScreen.Proofs.Decimal.Number

/-!
# Sums of floating-point numbers

Adding zero changes no number but minus zero (`add_zero_of_ne`), and only minus zero and minus zero make minus zero
(`add_ne_minusZero`), since a sum of two numbers is never rounded to zero (`round_spec`). So a sum that begins at zero
stays the same when zeros are left out of it (`foldl_add_ite`).
-/
namespace FraudScreen.Decimal

open Float.Model (UnpackedFloat Format totalExponent)
open Float.Model.UnpackedFloat

/-! ## Packing -/

section

variable (bits : BitVec Format.binary64.numBits)

/-- A word is put together of its fields. -/
theorem packComponents_unpack :
    packComponents Format.binary64 (Sign.ofBitVec (unpackSign bits)) (unpackExponent bits) (unpackMantissa bits) =
      bits := by
  have hsign : (Sign.ofBitVec (unpackSign bits)).toBitVec = unpackSign bits := by
    generalize unpackSign bits = s
    obtain rfl | rfl : s = 0#1 ∨ s = 1#1 := by
      have := s.isLt
      rw [← BitVec.toNat_inj, ← BitVec.toNat_inj]
      simp
      omega
    · rfl
    · rfl
  rw [packComponents, hsign]
  ext i hi
  simp only [unpackSign, unpackExponent, unpackMantissa, BitVec.extractLsb]
  grind

theorem toNat_unpackMantissa_lt : (unpackMantissa bits).toNat < 2 ^ 52 := (unpackMantissa bits).isLt

theorem toNat_unpackExponent_lt : (unpackExponent bits).toNat < 2 ^ 11 := (unpackExponent bits).isLt

end

section

variable {s : Sign} {m : ℕ}

/-- With the least exponent, a mantissa that is too short for a normal number is written as it is. -/
theorem pack_subnormal (hpos : 0 < m) (hm : m < 2 ^ 52) :
    UnpackedFloat.pack Format.binary64 (.finite s m (-1074) hpos) =
      packComponents Format.binary64 s 0 (BitVec.ofNat 52 m) := by
  have hlog : m.log2 < 52 := (Nat.log2_lt hpos.ne').2 hm
  have hbits : m.log2 + 1 ≠ Format.binary64.mantissaBits := fun h => by
    change m.log2 + 1 = 53 at h
    omega
  rw [UnpackedFloat.pack]
  exact (if_neg (by decide)).trans (if_neg hbits)

/-- The leading bit of a normal number is not written. -/
theorem pack_normal {e : ℕ} (hm : m < 2 ^ 52) (he : e < 2047) (hpos : 0 < 2 ^ 52 + m) :
    UnpackedFloat.pack Format.binary64 (.finite s (2 ^ 52 + m) (e - 1075) hpos) =
      packComponents Format.binary64 s (BitVec.ofNat 11 e) (BitVec.ofNat 52 m) := by
  have hlog : (2 ^ 52 + m).log2 = 52 := (Nat.log2_eq_iff (by omega)).2 ⟨by omega, by omega⟩
  have hbiased : ((e : ℤ) - 1075 + 1023 + 52).toNat = e := by omega
  have hlow : BitVec.ofNat 52 (2 ^ 52 + m) = BitVec.ofNat 52 m := by
    rw [← BitVec.toNat_inj, BitVec.toNat_ofNat, Nat.add_mod_left, BitVec.toNat_ofNat]
  have hbias : (Format.binary64.exponentBias : ℤ) = 1023 := rfl
  rw [UnpackedFloat.pack]
  simp only [hbias, Nat.cast_ofNat, hbiased, hlog, hlow]
  rw [if_neg (by change ¬2048 ≤ e + 1; omega)]
  rfl

end

/-- **What was read is written back.** -/
theorem pack_unpack {bits : BitVec Format.binary64.numBits} (h : Format.binary64.Valid bits) :
    UnpackedFloat.pack Format.binary64 (UnpackedFloat.unpack Format.binary64 bits) = bits := by
  have hfields := packComponents_unpack bits
  have hm := toNat_unpackMantissa_lt bits
  have he := toNat_unpackExponent_lt bits
  have hmantissa : BitVec.ofNat 52 (unpackMantissa bits).toNat = unpackMantissa bits := BitVec.ofNat_toNat ..
  unfold UnpackedFloat.unpack
  dsimp only
  split
  · rename_i hlast
    split
    · rename_i hzero
      rw [hlast, hzero] at hfields
      exact hfields
    · rename_i hzero
      exact (h.eq_packedNaN hlast hzero).symm
  rename_i hlast
  split
  · rename_i hleast
    split
    · rename_i hzero
      rw [hleast, hzero] at hfields
      exact hfields
    · rename_i hzero
      have hexponent : ((unpackExponent bits).toNat : ℤ) - (1023 + 52) + 1 = -1074 := by
        rw [hleast]
        rfl
      have hpos : 0 < (unpackMantissa bits).toNat :=
        Nat.pos_of_ne_zero fun h => hzero (BitVec.toNat_inj.1 (by simpa using h))
      have hpack := pack_subnormal (s := Sign.ofBitVec (unpackSign bits)) hpos hm
      rw [← hexponent, hmantissa] at hpack
      rw [hleast] at hfields
      exact hpack.trans hfields
  · have hlead : (1#1 ++ unpackMantissa bits).toNat = 2 ^ 52 + (unpackMantissa bits).toNat := by
      rw [BitVec.toNat_append, ← Nat.shiftLeft_add_eq_or_of_lt (BitVec.isLt _)]
      rfl
    have hexponent : (unpackExponent bits).toNat ≠ 2047 := fun h => hlast (BitVec.toNat_inj.1 h)
    have hpack := pack_normal (s := Sign.ofBitVec (unpackSign bits)) (e := (unpackExponent bits).toNat) hm
      (by omega) (by omega)
    rw [BitVec.ofNat_toNat, BitVec.setWidth_eq, hmantissa] at hpack
    simp only [hlead]
    exact hpack.trans hfields

theorem eq_of_toBitVec_eq {x y : Float} (h : x.toBits.toBitVec = y.toBits.toBitVec) : x = y := by
  obtain ⟨⟨bits, _⟩⟩ := x
  obtain ⟨⟨others, _⟩⟩ := y
  obtain rfl : bits = others := UInt64.toBitVec_inj.1 h
  rfl

/-- Numbers that are unpacked alike are the same. -/
theorem eq_of_unpack_eq {x y : Float} (h : x.toModel.unpack = y.toModel.unpack) : x = y := by
  refine eq_of_toBitVec_eq ?_
  calc x.toModel.toBits.toBitVec = UnpackedFloat.pack Format.binary64 x.toModel.unpack :=
        (pack_unpack x.toModel.valid).symm
    _ = UnpackedFloat.pack Format.binary64 y.toModel.unpack := by rw [h]
    _ = y.toModel.toBits.toBitVec := pack_unpack y.toModel.valid

theorem unpack_ne_of_ne {x : Float} (h : x ≠ -0) : x.toModel.unpack ≠ .zero .negative :=
  fun he => h (eq_of_unpack_eq he)

/-- **Adding zero** changes no number but minus zero. -/
theorem add_zero_of_ne {x : Float} (h : x ≠ -0) : x + 0 = x := by
  have hadd : UnpackedFloat.add Format.binary64 x.toModel.unpack (.zero .positive) = x.toModel.unpack := by
    have hne := unpack_ne_of_ne h
    cases hx : x.toModel.unpack with
    | zero s =>
      rw [hx] at hne
      cases s with
      | negative => exact absurd rfl hne
      | positive => rfl
    | infinity | notANumber | finite => rfl
  refine eq_of_toBitVec_eq ?_
  exact (congrArg (UnpackedFloat.pack Format.binary64) hadd).trans (pack_unpack x.toModel.valid)

/-! ## Rounding -/

theorem mantissa_shiftRight (em : ExtendedMantissa) (n : ℕ) : (em >>> n).mantissa = em.mantissa / 2 ^ n := by
  induction n with
  | zero => simp [HShiftRight.hShiftRight, Nat.repeat]
  | succ n ih =>
    change (em >>> n).mantissa / 2 = _
    rw [ih, Nat.div_div_eq_div_mul, Nat.pow_succ]

theorem mantissa_ofMantissaAndAccuracy (m : ℕ) (a : Accuracy) :
    (ExtendedMantissa.ofMantissaAndAccuracy m a).mantissa = m := by
  cases a with
  | exact => rfl
  | inexact o => cases o <;> rfl

theorem le_roundedMantissa (em : ExtendedMantissa) : em.mantissa ≤ em.roundedMantissa := by
  unfold ExtendedMantissa.roundedMantissa
  cases em.accuracy with
  | exact => exact le_rfl
  | inexact o => cases o <;> simp [Accuracy.roundToNearestEven]

theorem targetExponent_eq (t : ℤ) : Format.binary64.targetExponent t = max (t - 53) (-1074) := rfl

/-- Shifting drops the bits of a mantissa beyond the first 53, so it never drops all. -/
theorem shiftToTargetExponent_spec {m : ℕ} (hm : 0 < m) {e : ℤ} (he : -1074 ≤ e) (a : Accuracy) :
    let shifted := shiftToTargetExponent Format.binary64 m e a
    0 < shifted.1.mantissa ∧ shifted.1.mantissa < 2 ^ 53 ∧ -1074 ≤ shifted.2 := by
  intro shifted
  let n := (Format.binary64.targetExponent (totalExponent m e) - e).toNat
  have hmantissa : shifted.1.mantissa = m / 2 ^ n := by
    change (ExtendedMantissa.ofMantissaAndAccuracy m a >>> n).mantissa = _
    rw [mantissa_shiftRight, mantissa_ofMantissaAndAccuracy]
  have hexponent : shifted.2 = e + n := rfl
  have hn : n = m.log2 - 52 := by
    change (Format.binary64.targetExponent (m.log2 + 1 + e) - e).toNat = _
    rw [targetExponent_eq]
    omega
  have hlow : 2 ^ m.log2 ≤ m := Nat.log2_self_le hm.ne'
  have hhigh : m < 2 ^ (m.log2 + 1) := Nat.lt_log2_self
  refine ⟨?_, ?_, by omega⟩
  · rw [hmantissa]
    exact Nat.div_pos ((Nat.pow_le_pow_right two_pos (by omega)).trans hlow) (Nat.two_pow_pos n)
  · rw [hmantissa, Nat.div_lt_iff_lt_mul (Nat.two_pow_pos n), ← Nat.pow_add]
    exact hhigh.trans_le (Nat.pow_le_pow_right two_pos (by omega))

/-- A positive multiple of the least magnitude is not rounded to zero. -/
theorem round_spec (s : Sign) {m : ℕ} (hm : 0 < m) {e : ℤ} (he : -1074 ≤ e) :
    ∃ m' e' h, UnpackedFloat.round Format.binary64 s m e = .finite s m' e' h ∧ m' < 2 ^ 53 ∧ -1074 ≤ e' := by
  let d := decreaseExponent m e (Format.binary64.targetExponent (totalExponent m e))
  have hd : 0 < d.1 ∧ -1074 ≤ d.2 := by
    have htarget := targetExponent_eq (totalExponent m e)
    refine ⟨?_, ?_⟩
    · change 0 < m <<< _
      rw [Nat.shiftLeft_eq]
      exact Nat.mul_pos hm (Nat.two_pow_pos _)
    · change -1074 ≤ e - _
      omega
  -- rounding up may add a bit, so the mantissa is shifted twice
  let first := shiftToTargetExponent Format.binary64 d.1 d.2 .exact
  obtain ⟨hfirst, -, hexponent⟩ := shiftToTargetExponent_spec hd.1 hd.2 .exact
  have hrounded : 0 < first.1.roundedMantissa := hfirst.trans_le (le_roundedMantissa _)
  obtain ⟨hpos, hlt, hleast⟩ := shiftToTargetExponent_spec hrounded hexponent .exact
  exact ⟨_, _, hpos, dif_neg hpos.ne', hlt, hleast⟩

/-! ## Sums -/

/-- A result that is packed without a loss, and not as minus zero. -/
def IsRounded : UnpackedFloat → Prop
  | .zero s => s = .positive
  | .finite _ m e _ => m < 2 ^ 53 ∧ -1074 ≤ e
  | _ => True

theorem pack_ne_minusZero {u : UnpackedFloat} (h : IsRounded u) :
    UnpackedFloat.pack Format.binary64 u ≠ packedZero Format.binary64 .negative := by
  cases u with
  | notANumber => decide
  | infinity s => cases s <;> decide
  | zero s =>
    cases s with
    | negative => cases h
    | positive => decide
  | finite s m e hpos =>
    obtain ⟨hm, he⟩ := h
    have hbias : (Format.binary64.exponentBias : ℤ) = 1023 := rfl
    have hbits : Format.binary64.mantissaBits = 53 := rfl
    intro heq
    have hexponent := congrArg (fun b => (unpackExponent b).toNat) heq
    have hmantissa := congrArg (fun b => (unpackMantissa b).toNat) heq
    simp only [UnpackedFloat.pack, packedZero, unpackExponent_packComponents, unpackMantissa_packComponents, hbias,
      hbits] at hexponent hmantissa
    split at hexponent
    · simp [packedInfinity] at hexponent
    rename_i hlast
    rw [if_neg hlast] at hmantissa
    split at hexponent
    · -- a normal number has an exponent
      simp at hexponent
      omega
    · -- any other number has a mantissa
      rename_i hnormal
      rw [if_neg hnormal] at hmantissa
      have hlog : m.log2 < 53 := (Nat.log2_lt hpos.ne').2 hm
      have hlt : m < 2 ^ 52 := (Nat.log2_lt hpos.ne').1 (by omega)
      simp at hmantissa
      omega

theorem isRounded_unpack {x : Float} (h : x ≠ -0) : IsRounded x.toModel.unpack := by
  have hne := unpack_ne_of_ne h
  have hcanonical := canonical_kindOf x
  rw [unpack_eq_unpacked] at hne ⊢
  cases hk : kindOf x with
  | nan | infinite => trivial
  | finite b =>
    rw [hk] at hne hcanonical
    obtain hz | ⟨hpos, hf⟩ := Kind.unpacked_finite b
    · rw [hz] at hne ⊢
      cases hs : b.negative with
      | false => rfl
      | true => exact absurd (by rw [hs]; rfl) hne
    · rw [hf]
      exact ⟨hcanonical.bounded, hcanonical.least⟩

theorem isRounded_normalize (m : ℤ) {e : ℤ} (he : -1074 ≤ e) :
    IsRounded (UnpackedFloat.normalize Format.binary64 m e .positive) := by
  have hround (s : Sign) {n : ℕ} (hn : 0 < n) : IsRounded (UnpackedFloat.round Format.binary64 s n e) := by
    obtain ⟨_, _, _, hr, hm, hleast⟩ := round_spec s hn he
    rw [hr]
    exact ⟨hm, hleast⟩
  unfold UnpackedFloat.normalize
  split
  · rename_i hc
    have hneg : m < 0 := Int.compare_eq_lt.1 hc
    exact hround .negative (by omega)
  · rfl
  · rename_i hc
    have hpos : 0 < m := Int.compare_eq_gt.1 hc
    exact hround .positive (by omega)

theorem isRounded_add {u v : UnpackedFloat} (hu : IsRounded u) (hv : IsRounded v ∨ v = .zero .negative) :
    IsRounded (UnpackedFloat.add Format.binary64 u v) := by
  cases u with
  | notANumber => trivial
  | infinity s =>
    cases v with
    | infinity t => cases s <;> cases t <;> trivial
    | notANumber | zero | finite => trivial
  | zero s =>
    cases hu
    cases v with
    | zero t => cases t <;> rfl
    | finite => exact hv.resolve_right nofun
    | notANumber | infinity => trivial
  | finite s m e hpos =>
    cases v with
    | finite t n f => exact isRounded_normalize _ (le_min hu.2 (hv.resolve_right nofun).2)
    | zero => exact hu
    | notANumber | infinity => trivial

/-- **Only minus zero and minus zero** make minus zero. -/
theorem add_ne_minusZero {x : Float} (h : x ≠ -0) (y : Float) : x + y ≠ -0 := by
  have hy : IsRounded y.toModel.unpack ∨ y.toModel.unpack = .zero .negative := by
    by_cases hy : y = -0
    · exact .inr (congrArg (fun x : Float => x.toModel.unpack) hy)
    · exact .inl (isRounded_unpack hy)
  intro hsum
  exact pack_ne_minusZero (isRounded_add (isRounded_unpack h) hy)
    (congrArg (fun x : Float => x.toBits.toBitVec) hsum)

/-- **Zeros can be left out** of a sum that does not begin at minus zero. -/
theorem foldl_add_ite {α : Type} (p : α → Prop) [DecidablePred p] (f : α → Float) (xs : List α) :
    ∀ {s : Float}, s ≠ -0 →
      (xs.map fun a => if p a then f a else 0).foldl (· + ·) s = ((xs.filter p).map f).foldl (· + ·) s := by
  induction xs with
  | nil => exact fun _ => rfl
  | cons a xs ih =>
    intro s hs
    by_cases ha : p a
    · simpa [ha] using ih (add_ne_minusZero hs (f a))
    · simpa [ha, add_zero_of_ne hs] using ih hs

end FraudScreen.Decimal
