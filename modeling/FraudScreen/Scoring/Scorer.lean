import FraudScreen.Payment.Validation
import FraudScreen.Rules.Session
import FraudScreen.Scoring.Evidence
import FraudScreen.Screening.Screener

/-!
# Scoring transactions

A scorer takes a transaction from its text to a decision: it validates it, evaluates the rules, looks for
patterns and weighs the scores together with those of models. What is found out about a transaction comes
first, and the decision under the thresholds then in force comes after it, so that rules may be loaded in
between.
-/
namespace FraudScreen.Scoring

open Payment (Transaction DecisionRecord Violation)
open Rules (Context Document PassResult Session Times)
open Screening (Findings Screener)

/-- The name under which decisions without models are recorded. -/
def noModel : String := "none"

structure Scorer where
  /-- The rules, with the counters of the whole scorer. -/
  rules : Session
  screener : Screener
  modelVersion : String

/-- What was found out about a transaction. -/
structure Assessment where
  pass : PassResult
  findings : Findings
  evidence : Evidence

/-- How the scoring of a transaction ends. -/
inductive Result where
  | decided (r : DecisionRecord)
  | invalid (v : Violation)
  /-- There was no answer of the rules. -/
  | crashed

namespace Scorer

/-- A scorer without rules and patterns. -/
def start (o : Rules.Origin) (r : Screening.Request) : Scorer := ⟨.start o, .new r, noModel⟩

/-- The counters of the scorer. -/
def metrics (s : Scorer) : Metrics := s.rules.book.metrics

/-- Changes the counters. -/
def count (s : Scorer) (f : Metrics → Metrics) : Scorer :=
  { s with rules := { s.rules with book := { s.rules.book with metrics := f s.metrics } } }

/-- Loads the rules. -/
def reload (s : Scorer) : Scorer × Except Rules.LoadError Rules.Published :=
  let (book, result) := s.rules.book.reload
  ({ s with rules := { s.rules with book } }, result)

/-- Replaces the document of the rules. -/
def replace (s : Scorer) (d : Document) : Scorer := { s with rules := s.rules.step (.replace d) }

/-- The engine and the worker that evaluate the rules. -/
def engine : Nat := 0

/-- Evaluates rules and looks for patterns; `none` if there is no answer of the rules. -/
def assess (s : Scorer) (c : Context) (modelScores : List Float) (times : Times) : Scorer × Option Assessment :=
  let (rules, result) := s.rules.evaluate engine 0 c times
  let s := { s with rules }
  match result with
  | none => (s, none)
  | some pass =>
    let s := s.count (·.countPass pass.evaluated pass.triggered pass.failed)
    let (screener, findings) := s.screener.screen c.transaction
    let s := { s with screener }
    let s := s.count (·.countScan findings.against.length findings.inFavour.length)
    (s, some ⟨pass, findings, .gather c [pass.totalScore, findings.score] modelScores⟩)

/-- Decides under the thresholds in force, and records why. -/
def conclude (s : Scorer) (tx : Transaction) (a : Assessment) : Scorer × DecisionRecord :=
  let riskScore := a.evidence.riskScore
  let decision := s.rules.book.store.decide riskScore
  (s.count (·.countDecision decision),
    { requestId := tx.requestId
      decision, riskScore
      reasons := a.evidence.reasons
      triggeredRules := a.pass.triggeredRules
      blacklistHits := a.findings.against.length
      whitelistHits := a.findings.inFavour.length
      modelVersion := s.modelVersion
      rulesVersion := a.pass.rulesVersion })

/-- Scores a transaction, in its context, that is seen at the moment `now`, with rules that take the given times. -/
def score (s : Scorer) (now : Calendar.Timestamp) (c : Context) (modelScores : List Float) (times : Times) :
    Scorer × Result :=
  match c.transaction.validate now with
  | .error v => (s, .invalid v)
  | .ok () =>
    match s.assess c modelScores times with
    | (s, none) => (s.count .countTiming, .crashed)
    | (s, some a) =>
      let (s, record) := s.conclude c.transaction a
      (s.count .countTiming, .decided record)

end Scorer

end FraudScreen.Scoring
