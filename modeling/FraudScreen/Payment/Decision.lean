import FraudScreen.Json.Writer
import FraudScreen.Payment.Transaction

/-!
# Decisions

What becomes of a transaction, and the record of why. Decisions are ordered by severity.
-/
namespace FraudScreen.Payment

/-- What becomes of a transaction, from the mildest outcome to the most severe. -/
inductive Decision where
  | approve
  | review
  | decline
deriving DecidableEq, Repr

namespace Decision

def name : Decision → String
  | approve => "APPROVE"
  | review => "REVIEW"
  | decline => "DECLINE"

/-- The decision with a name. -/
def named? (s : String) : Option Decision := [approve, review, decline].find? (·.name = s)

/-- The rank in order of severity. -/
def severity : Decision → Nat
  | approve => 0
  | review => 1
  | decline => 2

/-- A decision is written as its name, or as an object whose only member has that name and no value. -/
def ofJson? : Json.Value → Option Decision
  | .text (some s) => named? s
  | .object [(some s, .null)] => named? s
  | _ => none

end Decision

/-- The outcome for one transaction. -/
structure DecisionRecord where
  requestId : String
  decision : Decision
  riskScore : Float
  reasons : List String
  triggeredRules : List String
  blacklistHits : Nat
  whitelistHits : Nat
  modelVersion : String
  rulesVersion : String

/-- A record as it is kept in writing: with the time that scoring took and the moment of the decision. -/
structure DatedRecord where
  record : DecisionRecord
  latencyMs : Float
  timestamp : Calendar.Timestamp

open Json (Value)

/-- A list of texts. -/
def textsOfJson? (v : Value) : Option (List String) := v.items?.bind (·.mapM Value.text?)

/-- A count that fits 64 bits. -/
def countOfJson? : Value → Option Nat := Value.nat? (UInt64.size - 1)

/-- Reads a record. -/
def DatedRecord.ofJson? (v : Value) : Option DatedRecord := do
  let f ← v.fields? ["request_id", "decision", "risk_score", "reasons", "triggered_rules",
    "blacklist_hits", "whitelist_hits", "latency_ms", "model_version", "rules_version", "timestamp"]
  let requestId ← f.required "request_id" Value.text?
  let decision ← f.required "decision" Decision.ofJson?
  let riskScore ← f.required "risk_score" Value.float?
  let reasons ← f.required "reasons" textsOfJson?
  let triggeredRules ← f.withDefault "triggered_rules" textsOfJson? []
  let blacklistHits ← f.withDefault "blacklist_hits" countOfJson? 0
  let whitelistHits ← f.withDefault "whitelist_hits" countOfJson? 0
  let latencyMs ← f.required "latency_ms" Value.float?
  let modelVersion ← f.required "model_version" Value.text?
  let rulesVersion ← f.required "rules_version" Value.text?
  let timestamp ← f.required "timestamp" timestampOfJson?
  let record : DecisionRecord :=
    { requestId, decision, riskScore, reasons, triggeredRules, blacklistHits, whitelistHits,
      modelVersion, rulesVersion }
  return { record, latencyMs, timestamp }

/-- Writes a record. -/
def DatedRecord.toJson (r : DatedRecord) : String :=
  let texts (ts : List String) := Json.writeArray (ts.map Json.writeText)
  Json.writeObject
    [("request_id", Json.writeText r.record.requestId),
     ("decision", Json.writeText r.record.decision.name),
     ("risk_score", Json.writeFloat r.record.riskScore),
     ("reasons", texts r.record.reasons),
     ("triggered_rules", texts r.record.triggeredRules),
     ("blacklist_hits", toString r.record.blacklistHits),
     ("whitelist_hits", toString r.record.whitelistHits),
     ("latency_ms", Json.writeFloat r.latencyMs),
     ("model_version", Json.writeText r.record.modelVersion),
     ("rules_version", Json.writeText r.record.rulesVersion),
     ("timestamp", Json.writeText r.timestamp.write)]

end FraudScreen.Payment
