import FraudScreen.Json.Parser
import FraudScreen.Scoring.Scorer

/-!
# Submissions

A line of input: a transaction, perhaps with the scores that models gave it. Blank lines, lines that do
not read and transactions that are not valid are passed over. A run shows no statistics, and no run lasts so long that
the times of its rules could not be added up, so these are not measured.
-/
namespace FraudScreen.Replay

open Payment (Arrival DecisionRecord Transaction)
open Scoring (Scorer)

structure Submission where
  transaction : Transaction
  modelScores : List Float

namespace Submission

/-- The depth of nesting up to which lines are read. -/
def mostDepth : Nat := 127

/-- A list of scores. -/
def scoresOfJson? (v : Json.Value) : Option (List Float) := v.items?.bind (·.mapM Json.Value.float?)

/-- Takes a submission out of an object. Members that are not known do not count, but must be readable. -/
def ofJson? (arrival : Arrival) (v : Json.Value) : Option Submission := do
  match v with
  | .object _ =>
    if v.isReadable mostDepth then
      let f ← v.fields? (Transaction.fieldNames ++ ["model_scores"])
      let transaction ← Transaction.ofFields? arrival f
      let modelScores ← f.withDefault "model_scores" scoresOfJson? []
      return { transaction, modelScores }
    else none
  | _ => none

/-- Reads a line. -/
def read? (arrival : Arrival) (line : String) : Option Submission :=
  (Json.parse line).bind (ofJson? arrival)

end Submission

/-- What becomes of a line. -/
inductive LineResult where
  | skipped
  | decided (r : DecisionRecord)
  /-- The evaluator of rules broke down. -/
  | crashed

/-- Scores the transaction of a line that arrives as given. -/
def scoreLine (s : Scorer) (arrival : Arrival) (line : String) : Scorer × LineResult :=
  if (Text.trim line.toList).isEmpty then (s, .skipped)
  else match Submission.read? arrival line with
    | none => (s, .skipped)
    | some sub =>
      match s.score arrival.moment (.ofTransaction sub.transaction) sub.modelScores .zero with
      | (s, .decided r) => (s, .decided r)
      | (s, .invalid _) => (s, .skipped)
      | (s, .crashed) => (s, .crashed)

end FraudScreen.Replay
