import FraudScreen.Payment.Decision
import FraudScreen.Decimal.Layout
import FraudScreen.Rules.Document
import FraudScreen.Text.Blank

/-!
# Rule sets

The rules of a document that are complete, each identifier once, the heaviest first. The order of weights
is total, and rules of one weight stay in document order.
-/
namespace FraudScreen.Rules

open Payment (Decision)

/-- A weighted expression. -/
structure Rule where
  id : String
  name : String
  expression : String
  weight : Weight
  enabled : Bool
  description : String

/-- Scores below `approve` are approved, scores from `review` on are declined, the others reviewed. -/
structure Thresholds where
  approve : Float
  review : Float

namespace Thresholds

def standard : Thresholds := ⟨30, 70⟩

def decide (t : Thresholds) (score : Float) : Decision :=
  if score < t.approve then .approve else if t.review ≤ score then .decline else .review

/-- The thresholds of a document, each one standard when it is missing. -/
def ofEntry (e : Option ThresholdEntry) : Thresholds :=
  { approve := (e.bind (·.approve)).getD standard.approve
    review := (e.bind (·.review)).getD standard.review }

end Thresholds

/-- The rules of one version of a document. -/
structure Ruleset where
  version : String
  rules : List Rule
  thresholds : Thresholds

/-- The rule of a complete entry: one with an identifier and an expression that is not blank. -/
def Entry.rule? (e : Entry) : Option Rule := do
  let id ← e.id.filter (!·.isEmpty)
  let expression ← e.expression.filter fun s => !(Text.trim s.toList).isEmpty
  return {
    id, expression
    name := e.name.getD id
    weight := e.weight.getD 1
    enabled := e.enabled.getD true
    description := e.description.getD "" }

/-- The rules of the complete entries, in order. Of the entries with one identifier the first complete one counts, and
none does if the identifier is among `taken`. -/
def selectRules (taken : List String) : List Entry → List Rule
  | [] => []
  | e :: rest =>
    match e.rule? with
    | none => selectRules taken rest
    | some r => if r.id ∈ taken then selectRules taken rest else r :: selectRules (r.id :: taken) rest

/-- Sorts rules by weight, the heaviest first. -/
def heaviestFirst (rules : List Rule) : List Rule :=
  rules.mergeSort fun a b => orderKey b.weight ≤ orderKey a.weight

/-- Thresholds of which the lower one exceeds the upper one. -/
structure ThresholdConflict where
  approve : Float
  review : Float

def ThresholdConflict.message (c : ThresholdConflict) : String :=
  "approve_threshold " ++ Decimal.write c.approve ++ " exceeds review_threshold " ++
    Decimal.write c.review

namespace Ruleset

/-- The version of a document that names none. -/
def standardVersion : String := "1.0.0"

/-- The rule set in force before any document was loaded. -/
def empty : Ruleset := ⟨"0.0.0", [], .standard⟩

/-- The rule set of a document. -/
def ofDocument (d : Document) : Except ThresholdConflict Ruleset :=
  let t := Thresholds.ofEntry d.thresholds
  if t.review < t.approve then .error ⟨t.approve, t.review⟩
  else .ok {
    version := d.version.getD standardVersion
    rules := heaviestFirst (selectRules [] d.rules)
    thresholds := t }

/-- The enabled rules in the order in which they are evaluated. -/
def enabledRules (r : Ruleset) : List Rule := r.rules.filter (·.enabled)

def find? (r : Ruleset) (id : String) : Option Rule := r.rules.find? (·.id = id)

end Ruleset

end FraudScreen.Rules
