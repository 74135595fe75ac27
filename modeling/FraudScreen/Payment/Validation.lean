import FraudScreen.Decimal.Layout
import FraudScreen.Network.Address
import FraudScreen.Payment.Transaction

/-!
# Validation

The limits within which a transaction is accepted. All violations are listed in field order; the first
one is reported. Lengths count bytes.
-/
namespace FraudScreen.Payment

/-- What is wrong with a field. -/
inductive Fault where
  | blank
  | tooLong (length most : Nat)
  | inTheFuture
  | amountOutside (amount : Float)
  | zeroCategory
  | notAnAddress (text : String)
  | riskOutside
  | tooOld

/-- A field that breaks a limit. -/
structure Violation where
  field : String
  fault : Fault

/-- The smallest accepted amount. -/
def leastAmount : Float := 0.01

/-- The largest accepted amount. -/
def mostAmount : Float := 1000000

/-- The greatest accepted age of an account in days. -/
def mostAccountDays : Nat := 36500

/-- How many hours ahead of the clock a transaction may be. -/
def mostHoursAhead : Int := 1

def Fault.reason : Fault → String
  | blank => "must not be empty"
  | tooLong length most =>
    "length " ++ toString length ++ " exceeds maximum " ++ toString most
  | inTheFuture => "too far in the future"
  | amountOutside amount =>
    Decimal.write amount ++ " outside [" ++ Decimal.write leastAmount ++ ", " ++
      Decimal.write mostAmount ++ "]"
  | zeroCategory => "must be positive"
  | notAnAddress text => "'" ++ text ++ "' is not an IP address"
  | riskOutside => "must be within [0, 100]"
  | tooOld => "exceeds 36500 days"

def Violation.message (v : Violation) : String :=
  "invalid field '" ++ v.field ++ "': " ++ v.fault.reason

/-- A violation, unless the condition holds. -/
def demand (field : String) (holds : Bool) (fault : Fault) : List Violation :=
  if holds then [] else [⟨field, fault⟩]

/-- A text must not be empty, and at most `most` bytes long. -/
def demandText (field text : String) (most : Nat) : List Violation :=
  if text.isEmpty then [⟨field, .blank⟩]
  else demand field (text.utf8ByteSize ≤ most) (.tooLong text.utf8ByteSize most)

/-- All violations of a transaction that is seen at the moment `now`. -/
def Transaction.violations (now : Calendar.Timestamp) (tx : Transaction) : List Violation :=
  demandText "request_id" tx.requestId 100 ++
  demand "timestamp" (!tx.timestamp.isAfter (now.addHours mostHoursAhead)) .inTheFuture ++
  demand "transaction.amount" (leastAmount ≤ tx.purchase.amount && tx.purchase.amount ≤ mostAmount)
    (.amountOutside tx.purchase.amount) ++
  demandText "transaction.currency" tx.purchase.currency 3 ++
  demandText "transaction.merchant_id" tx.purchase.merchantId 50 ++
  demand "transaction.merchant_category" (tx.purchase.merchantCategory != 0) .zeroCategory ++
  demandText "transaction.pos_entry_mode" tx.purchase.posEntryMode 20 ++
  demandText "card.token" tx.card.token 100 ++
  demandText "card.issuer_country" tx.card.issuerCountry 2 ++
  demandText "card.card_brand" tx.card.brand 20 ++
  demand "device.ip" (Network.isAddress tx.device.ip) (.notAnAddress tx.device.ip) ++
  demandText "device.fingerprint" tx.device.fingerprint 100 ++
  demandText "device.user_agent" tx.device.userAgent 500 ++
  demandText "customer.id" tx.customer.id 50 ++
  demand "customer.risk_score" (0 ≤ tx.customer.riskScore && tx.customer.riskScore ≤ 100)
    .riskOutside ++
  demand "customer.account_age_days" (tx.customer.accountAgeDays.toNat ≤ mostAccountDays) .tooOld

/-- Accepts a transaction, or reports its first violation. -/
def Transaction.validate (now : Calendar.Timestamp) (tx : Transaction) : Except Violation Unit :=
  match tx.violations now with
  | [] => .ok ()
  | v :: _ => .error v

end FraudScreen.Payment
