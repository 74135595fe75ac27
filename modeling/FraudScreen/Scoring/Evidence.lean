import FraudScreen.Decimal.Binary
import FraudScreen.Rules.Context

/-!
# Evidence

What speaks for the risk of a transaction: the scores of rules and patterns on one side, the scores of
models on the other. Both sides are averaged and weighed, and the high scores are named as reasons.
-/
namespace FraudScreen.Scoring

/-- The sum of scores, from left to right. The sum of none is the negative zero, which is neutral. -/
def sum (scores : List Float) : Float := scores.foldl (· + ·) (-0.0)

/-- The mean of scores; that of none is zero. -/
def mean (scores : List Float) : Float :=
  if scores.isEmpty then 0 else sum scores / scores.length.toFloat

/-- The share of the rules in a score. -/
def ruleShare : Float := 0.6

/-- The share of the models in a score. -/
def modelShare : Float := 0.4

/-- The nearest number from `low` to `high`. What is no number stays so. -/
def clamp (low high x : Float) : Float := if x < low then low else if high < x then high else x

/-- The risk from 0 to 100: both means by their shares. A side without scores adds nothing, but the
other side keeps its share. -/
def riskScore (rules models : List Float) : Float :=
  clamp 0 100 (mean rules * ruleShare + mean models * modelShare)

/-! ## Reasons -/

/-- A score of rules or patterns above this is a reason. -/
def ruleReasonThreshold : Float := 50

/-- A score of models above this is a reason. -/
def modelReasonThreshold : Float := 70

/-- The greatest of the scores that are numbers. -/
def greatest (scores : List Float) : Float :=
  scores.foldl (fun m x => if m < x then x else m) (-(1 / 0))

/-- A score in a reason, without its fraction. -/
def wholePart (x : Float) : String := toString (Decimal.truncateToInt64 x).toInt

/-- The reasons that rules and patterns give, by their position. -/
def ruleReasons (scores : List Float) : List String :=
  (scores.zipIdx.filter fun (x, _) => ruleReasonThreshold < x).map fun (x, i) =>
    "Rule " ++ toString (i + 1) ++ " triggered (score: " ++ wholePart x ++ ")"

/-- The reason that models give, if the greatest of their scores is high. -/
def modelReasons (scores : List Float) : List String :=
  if modelReasonThreshold < greatest scores then
    ["ML model indicates high risk (score: " ++ wholePart (greatest scores) ++ ")"]
  else []

/-- The reasons for a score, or that there is none. -/
def reasons (rules models : List Float) : List String :=
  match ruleReasons rules ++ modelReasons models with
  | [] => ["Transaction within normal risk parameters"]
  | rs => rs

/-! ## Features -/

/-- The number of features that models are given. -/
def featureCount : Nat := 64

/-- The numbers of a context, filled up with zeros. -/
def featuresOf (c : Rules.Context) : List Float :=
  let numbers := c.numbers.map (·.2)
  numbers ++ List.replicate (featureCount - numbers.length) 0

/-- All that was collected about one transaction. -/
structure Evidence where
  features : List Float
  ruleScores : List Float
  modelScores : List Float

namespace Evidence

/-- The evidence in a context with the given scores. -/
def gather (c : Rules.Context) (ruleScores modelScores : List Float) : Evidence :=
  ⟨featuresOf c, ruleScores, modelScores⟩

/-- There is a score at all. -/
def isComplete (e : Evidence) : Bool := !e.ruleScores.isEmpty || !e.modelScores.isEmpty

def riskScore (e : Evidence) : Float := Scoring.riskScore e.ruleScores e.modelScores

def reasons (e : Evidence) : List String := Scoring.reasons e.ruleScores e.modelScores

end Evidence

end FraudScreen.Scoring
