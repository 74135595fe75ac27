import FraudScreen.Rules.Pass
import FraudScreen.Rules.Source

/-!
# Rule store

The rule set in force, and what is remembered about it: the statistics of its rules, the marker of the
document it was made from, and the last error. Loading is all or nothing: a rule set is built completely
before it is published, and a failure leaves the published one in force. The marker is read before the
document, so that a change in between is seen as a change later on.
-/
namespace FraudScreen.Rules

open Payment (Decision)

structure Store where
  current : Published
  telemetry : Telemetry
  /-- The marker of the document that was loaded last, if it could be read. -/
  marker : Option Marker
  lastError : Option LoadError
  /-- The number of publications so far. -/
  publications : Nat

namespace Store

/-- A store without rules. -/
def empty : Store := ⟨.initial, [], none, none, 0⟩

/-- Rules were loaded at some time. -/
def isInitialized (s : Store) : Bool := s.current.generation != 0

/-- Puts a rule set in force and makes its rules known to the statistics. -/
def publish (s : Store) (r : Ruleset) : Store :=
  { s with
    current := ⟨r, s.publications + 1⟩
    publications := s.publications + 1
    telemetry := s.telemetry.register (r.rules.map (·.id)) }

/-- Ends a successful load: remembers the marker and forgets the last error. -/
def remember (s : Store) (m : Option Marker) : Store := { s with marker := m, lastError := none }

/-- Ends a failed load. -/
def blame (s : Store) (e : LoadError) : Store := { s with lastError := some e }

/-- Loads the rules of a source. -/
def reload (s : Store) (source : Source) : Store × Except LoadError Published :=
  let m := source.marker?
  match source.load with
  | .ok r =>
    let s := (s.publish r).remember m
    (s, .ok s.current)
  | .error e => (s.blame e, .error e)

/-- The decision for a score under the thresholds in force. -/
def decide (s : Store) (score : Float) : Decision := s.current.ruleset.thresholds.decide score

/-- Counts trials of rules, up to one whose time cannot be added. -/
def record (s : Store) (as : List Attempt) : Store :=
  { s with telemetry := s.telemetry.recordAll as }

/-- Counts the trials of a pass. The pass has no result if the evaluator crashed, and nothing is counted then, or if a
trial took a time that cannot be added. -/
def finishPass (s : Store) (version : String) (times : Times) (os : List (Rule × Outcome)) :
    Store × Option PassResult :=
  if os.any (·.2.isCrash) then (s, none)
  else
    let as := attemptsOf times os
    (s.record as, if s.telemetry.fitsAll as then some (.ofOutcomes version os) else none)

def resetTelemetry (s : Store) : Store := { s with telemetry := s.telemetry.reset }

end Store

end FraudScreen.Rules
