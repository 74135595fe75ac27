import FraudScreen.Payment.Decision

/-!
# Counters

What has happened since the start, in numbers.
-/
namespace FraudScreen

open Payment (Decision)

/-- The counters of the program. -/
structure Metrics where
  decisions : Nat
  approved : Nat
  reviewed : Nat
  declined : Nat
  /-- Transactions whose scoring was timed. -/
  timings : Nat
  rulesEvaluated : Nat
  rulesTriggered : Nat
  rulesFailed : Nat
  scans : Nat
  blacklistHits : Nat
  whitelistHits : Nat
  reloads : Nat
  reloadErrors : Nat
deriving DecidableEq, Repr

namespace Metrics

def zero : Metrics := ⟨0, 0, 0, 0, 0, 0, 0, 0, 0, 0, 0, 0, 0⟩

/-- Counts a decision, in total and under its outcome. -/
def countDecision (m : Metrics) (d : Decision) : Metrics :=
  let m := { m with decisions := m.decisions + 1 }
  match d with
  | .approve => { m with approved := m.approved + 1 }
  | .review => { m with reviewed := m.reviewed + 1 }
  | .decline => { m with declined := m.declined + 1 }

/-- Counts that the scoring of a transaction was timed. -/
def countTiming (m : Metrics) : Metrics := { m with timings := m.timings + 1 }

/-- Counts the rules of one pass. -/
def countPass (m : Metrics) (evaluated triggered failed : Nat) : Metrics :=
  { m with
    rulesEvaluated := m.rulesEvaluated + evaluated
    rulesTriggered := m.rulesTriggered + triggered
    rulesFailed := m.rulesFailed + failed }

/-- Counts the screening of a transaction and its hits. -/
def countScan (m : Metrics) (blacklist whitelist : Nat) : Metrics :=
  { m with
    scans := m.scans + 1
    blacklistHits := m.blacklistHits + blacklist
    whitelistHits := m.whitelistHits + whitelist }

/-- Counts an attempt to load rules. -/
def countReload (m : Metrics) (succeeded : Bool) : Metrics :=
  { m with
    reloads := m.reloads + 1
    reloadErrors := m.reloadErrors + (if succeeded then 0 else 1) }

/-- What a counter of 64 bits shows after so many events: it starts again from zero when it is full. -/
def shown (events : Nat) : Nat := events % UInt64.size

/-- The counters as a reader sees them. -/
def reading (m : Metrics) : Metrics :=
  { decisions := shown m.decisions
    approved := shown m.approved
    reviewed := shown m.reviewed
    declined := shown m.declined
    timings := shown m.timings
    rulesEvaluated := shown m.rulesEvaluated
    rulesTriggered := shown m.rulesTriggered
    rulesFailed := shown m.rulesFailed
    scans := shown m.scans
    blacklistHits := shown m.blacklistHits
    whitelistHits := shown m.whitelistHits
    reloads := shown m.reloads
    reloadErrors := shown m.reloadErrors }

end Metrics

end FraudScreen
