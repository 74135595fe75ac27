import FraudScreen.Payment.Validation

/-!
# Accepted transactions

A transaction is accepted if and only if it keeps all limits (`Transaction.WithinLimits`,
`validate_eq_ok_iff`). None of its texts is empty then, and its amount is greater than zero, which is what the
later stages ask of it.
-/
namespace FraudScreen.Payment

open Calendar (Timestamp)

/-- A text is there, and no longer than `most` bytes. -/
def FitsText (most : Nat) (text : String) : Prop := text ≠ "" ∧ text.utf8ByteSize ≤ most

instance (most : Nat) (text : String) : Decidable (FitsText most text) := inferInstanceAs (Decidable (_ ∧ _))

theorem demandText_eq_nil_iff {field text : String} {most : Nat} :
    demandText field text most = [] ↔ FitsText most text := by
  unfold demandText demand FitsText
  by_cases h : text = "" <;> simp [h]

theorem demand_eq_nil_iff {field : String} {holds : Bool} {fault : Fault} :
    demand field holds fault = [] ↔ holds = true := by
  cases holds <;> simp [demand]

namespace Transaction

/-- The limits of a transaction that is seen at the moment `now`. -/
structure WithinLimits (now : Timestamp) (tx : Transaction) : Prop where
  requestId : FitsText 100 tx.requestId
  timestamp : tx.timestamp.isAfter (now.addHours mostHoursAhead) = false
  amount : leastAmount ≤ tx.purchase.amount ∧ tx.purchase.amount ≤ mostAmount
  currency : FitsText 3 tx.purchase.currency
  merchantId : FitsText 50 tx.purchase.merchantId
  merchantCategory : tx.purchase.merchantCategory ≠ 0
  posEntryMode : FitsText 20 tx.purchase.posEntryMode
  token : FitsText 100 tx.card.token
  issuerCountry : FitsText 2 tx.card.issuerCountry
  brand : FitsText 20 tx.card.brand
  ip : Network.isAddress tx.device.ip = true
  fingerprint : FitsText 100 tx.device.fingerprint
  userAgent : FitsText 500 tx.device.userAgent
  customerId : FitsText 50 tx.customer.id
  riskScore : 0 ≤ tx.customer.riskScore ∧ tx.customer.riskScore ≤ 100
  accountAge : tx.customer.accountAgeDays.toNat ≤ mostAccountDays

theorem validate_eq_ok_iff_violations {now : Timestamp} {tx : Transaction} :
    tx.validate now = .ok () ↔ tx.violations now = [] := by
  unfold validate
  cases tx.violations now <;> simp

/-- **Acceptance.** A transaction is accepted if and only if it keeps all limits. -/
theorem validate_eq_ok_iff {now : Timestamp} {tx : Transaction} :
    tx.validate now = .ok () ↔ tx.WithinLimits now := by
  rw [validate_eq_ok_iff_violations]
  simp only [violations, List.append_eq_nil_iff, demandText_eq_nil_iff, demand_eq_nil_iff, Bool.and_eq_true,
    decide_eq_true_eq, Bool.not_eq_true', bne_iff_ne, and_assoc]
  constructor
  · rintro ⟨h₁, h₂, h₃, h₃', h₄, h₅, h₆, h₇, h₈, h₉, h₁₀, h₁₁, h₁₂, h₁₃, h₁₄, h₁₅, h₁₅', h₁₆⟩
    exact ⟨h₁, h₂, ⟨h₃, h₃'⟩, h₄, h₅, h₆, h₇, h₈, h₉, h₁₀, h₁₁, h₁₂, h₁₃, h₁₄, ⟨h₁₅, h₁₅'⟩, h₁₆⟩
  · rintro ⟨h₁, h₂, ⟨h₃, h₃'⟩, h₄, h₅, h₆, h₇, h₈, h₉, h₁₀, h₁₁, h₁₂, h₁₃, h₁₄, ⟨h₁₅, h₁₅'⟩, h₁₆⟩
    exact ⟨h₁, h₂, h₃, h₃', h₄, h₅, h₆, h₇, h₈, h₉, h₁₀, h₁₁, h₁₂, h₁₃, h₁₄, h₁₅, h₁₅', h₁₆⟩

end Transaction

/-- A transaction that is accepted at any time from its own moment on. -/
def Transaction.ordinary : Transaction :=
  { requestId := "r", timestamp := ⟨0, 0⟩, purchase := ⟨5000, "CHF", "m", 5411, "chip"⟩,
    card := ⟨"t", "CH", "visa"⟩, device := ⟨"10.0.0.1", "f", "u"⟩, customer := ⟨"c", 0.25, 400⟩ }

theorem Transaction.validate_ordinary : ordinary.validate ordinary.timestamp = .ok () := by
  rw [validate_eq_ok_iff_violations, ← List.isEmpty_iff]
  decide +kernel

/-! ## What later stages ask for -/

theorem isAddress_empty : Network.isAddress "" = false := by decide

/-- What is not below the least amount is a number, and greater than zero. -/
theorem pos_of_leastAmount_le {x : Float} (h : leastAmount ≤ x) : 0 < x := by
  have hleast : leastAmount.toModel.unpack = .finite .positive 5764607523034235 (-59) (by decide) := rfl
  have hzero : (0 : Float).toModel.unpack = .zero .positive := rfl
  change decide (leastAmount.toModel.unpack.le x.toModel.unpack) = true at h
  change decide ((0 : Float).toModel.unpack.lt x.toModel.unpack) = true
  rw [hleast] at h
  rw [hzero]
  generalize x.toModel.unpack = u at h ⊢
  -- zero, negative numbers and what is no number are below or cannot be compared
  cases u with
  | notANumber => exact absurd h Bool.false_ne_true
  | zero s => exact absurd h Bool.false_ne_true
  | infinity s =>
    cases s with
    | positive => rfl
    | negative => exact absurd h Bool.false_ne_true
  | finite s =>
    cases s with
    | positive => rfl
    | negative => exact absurd h Bool.false_ne_true

end FraudScreen.Payment
