import FraudScreen.Expr.Eval
import FraudScreen.Payment.Transaction

/-!
# Rule contexts

The variables that rules see: eight numbers and ten texts, from a transaction and from features that
were computed elsewhere. Numbers are always floating-point, so that equality compares values.
-/
namespace FraudScreen.Rules

open Payment (Transaction)

/-- Facts about a transaction that its text does not carry. -/
structure Features where
  merchantRisk : Float
  /-- Transactions of the customer within the last hour, this one included. -/
  hourlyCount : UInt32
  amountSum : Float
  ipBlacklistMatch : Bool

/-- The features of a transaction about which nothing is known. -/
def Features.neutral (amount : Float) : Features := ⟨0, 1, amount, false⟩

/-- What rules are evaluated against. -/
structure Context where
  transaction : Transaction
  features : Features

namespace Context

/-- A context without known features. -/
def ofTransaction (tx : Transaction) : Context := ⟨tx, .neutral tx.purchase.amount⟩

/-- The numbers with their names, in binding order. -/
def numbers (c : Context) : List (String × Float) :=
  let tx := c.transaction
  [("amount", tx.purchase.amount),
   ("merchant_category", Float.ofNat tx.purchase.merchantCategory.toNat),
   ("customer_risk_score", tx.customer.riskScore),
   ("account_age_days", Float.ofNat tx.customer.accountAgeDays.toNat),
   ("merchant_risk", c.features.merchantRisk),
   ("hourly_count", Float.ofNat c.features.hourlyCount.toNat),
   ("amount_sum", c.features.amountSum),
   ("ip_blacklist_match", if c.features.ipBlacklistMatch then 1 else 0)]

/-- The texts with their names, in binding order. -/
def texts (c : Context) : List (String × String) :=
  let tx := c.transaction
  [("currency", tx.purchase.currency),
   ("merchant_id", tx.purchase.merchantId),
   ("pos_entry_mode", tx.purchase.posEntryMode),
   ("card_token", tx.card.token),
   ("issuer_country", tx.card.issuerCountry),
   ("card_brand", tx.card.brand),
   ("ip_address", tx.device.ip),
   ("device_fingerprint", tx.device.fingerprint),
   ("user_agent", tx.device.userAgent),
   ("customer_id", tx.customer.id)]

/-- All variables with their values, numbers first. -/
def values (c : Context) : List (String × Expr.Value) :=
  c.numbers.map (fun (name, x) => (name, .float x)) ++ c.texts.map (fun (name, s) => (name, .text s))

/-- What rules need at the least: a customer, a merchant, a currency and a positive amount. -/
def isValid (c : Context) : Bool :=
  let tx := c.transaction
  !tx.customer.id.isEmpty && !tx.purchase.merchantId.isEmpty && !tx.purchase.currency.isEmpty &&
    0 < tx.purchase.amount

end Context

/-- Binds variables one after another up to the first that clashes with the type of an older value.
What was bound before the clash stays bound. -/
def bindAll (b : Expr.Bindings) : List (String × Expr.Value) → Expr.Bindings × Option Expr.EvalError
  | [] => (b, none)
  | (name, v) :: rest =>
    match b.bind name v with
    | .ok b => bindAll b rest
    | .error e => (b, some e)

/-- Binds all variables of a context. -/
def Context.bind (c : Context) (b : Expr.Bindings) : Expr.Bindings × Option Expr.EvalError :=
  bindAll b c.values

end FraudScreen.Rules
