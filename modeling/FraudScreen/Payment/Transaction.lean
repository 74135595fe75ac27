import FraudScreen.Calendar.Timestamp
import FraudScreen.Json.Value

/-!
# Transactions

A card payment as it arrives: what was paid, with which card, from which device and by whom. The
identifier and the moment of a transaction may be missing from its text; they then come from its arrival.
-/
namespace FraudScreen.Payment

/-- What was paid, and to whom. -/
structure Purchase where
  amount : Float
  currency : String
  merchantId : String
  merchantCategory : UInt16
  posEntryMode : String

/-- The card, known by a token that stands for its number. -/
structure Card where
  token : String
  issuerCountry : String
  brand : String

/-- The device from which the payment came. -/
structure Device where
  ip : String
  fingerprint : String
  userAgent : String

/-- The paying customer, with the risk already ascribed to them. -/
structure Customer where
  id : String
  riskScore : Float
  accountAgeDays : UInt32

structure Transaction where
  requestId : String
  timestamp : Calendar.Timestamp
  purchase : Purchase
  card : Card
  device : Device
  customer : Customer

/-- What is known of a transaction from the fact that it arrives. -/
structure Arrival where
  requestId : String
  moment : Calendar.Timestamp

open Json (Value)

def Purchase.ofJson? (v : Value) : Option Purchase := do
  let f ← v.fields? ["amount", "currency", "merchant_id", "merchant_category", "pos_entry_mode"]
  let amount ← f.required "amount" Value.float?
  let currency ← f.required "currency" Value.text?
  let merchantId ← f.required "merchant_id" Value.text?
  let merchantCategory ← f.required "merchant_category" (Value.nat? 65535)
  let posEntryMode ← f.required "pos_entry_mode" Value.text?
  return { amount, currency, merchantId, merchantCategory := .ofNat merchantCategory, posEntryMode }

def Card.ofJson? (v : Value) : Option Card := do
  let f ← v.fields? ["token", "issuer_country", "card_brand"]
  let token ← f.required "token" Value.text?
  let issuerCountry ← f.required "issuer_country" Value.text?
  let brand ← f.required "card_brand" Value.text?
  return { token, issuerCountry, brand }

def Device.ofJson? (v : Value) : Option Device := do
  let f ← v.fields? ["ip", "fingerprint", "user_agent"]
  let ip ← f.required "ip" Value.text?
  let fingerprint ← f.required "fingerprint" Value.text?
  let userAgent ← f.required "user_agent" Value.text?
  return { ip, fingerprint, userAgent }

def Customer.ofJson? (v : Value) : Option Customer := do
  let f ← v.fields? ["id", "risk_score", "account_age_days"]
  let id ← f.required "id" Value.text?
  let riskScore ← f.required "risk_score" Value.float?
  let accountAgeDays ← f.required "account_age_days" (Value.nat? 4294967295)
  return { id, riskScore, accountAgeDays := .ofNat accountAgeDays }

/-- A moment written as text. -/
def timestampOfJson? (v : Value) : Option Calendar.Timestamp := v.text?.bind Calendar.Timestamp.read?

/-- The fields of a transaction in their order. -/
def Transaction.fieldNames : List String :=
  ["request_id", "timestamp", "transaction", "card", "device", "customer"]

/-- Takes a transaction out of its fields. -/
def Transaction.ofFields? (arrival : Arrival) (f : Fields Value) : Option Transaction := do
  let requestId ← f.withDefault "request_id" Value.text? arrival.requestId
  let timestamp ← f.withDefault "timestamp" timestampOfJson? arrival.moment
  let purchase ← f.required "transaction" Purchase.ofJson?
  let card ← f.required "card" Card.ofJson?
  let device ← f.required "device" Device.ofJson?
  let customer ← f.required "customer" Customer.ofJson?
  return { requestId, timestamp, purchase, card, device, customer }

/-- Reads a transaction. -/
def Transaction.ofJson? (arrival : Arrival) (v : Value) : Option Transaction := do
  Transaction.ofFields? arrival (← v.fields? Transaction.fieldNames)

/-- The width in minutes of the time buckets of cache keys. -/
def bucketMinutes : Int := 5

/-- The bucket of a moment: its whole minutes divided by the width, toward the start of 1970. -/
def timeBucket (t : Calendar.Timestamp) : Int := (t.seconds.tdiv 60).tdiv bucketMinutes

/-- The key under which features of the transaction are cached: customer, merchant and time bucket. -/
def Transaction.cacheKey (tx : Transaction) : String :=
  "features:" ++ tx.customer.id ++ ":" ++ tx.purchase.merchantId ++ ":" ++
    toString (timeBucket tx.timestamp)

end FraudScreen.Payment
