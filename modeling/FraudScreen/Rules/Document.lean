import FraudScreen.Json.Parser
import FraudScreen.Rules.Weight
import FraudScreen.Yaml.Value

/-!
# Rule documents

What a rule file says, before any rule of sense is applied to it. Every field of a rule may be missing,
so that an entry that is not finished yet does no harm; only the list of rules must be there.
-/
namespace FraudScreen.Rules

/-- One rule as it is written. -/
structure Entry where
  id : Option String
  name : Option String
  expression : Option String
  weight : Option Weight
  enabled : Option Bool
  description : Option String

/-- The thresholds as they are written. -/
structure ThresholdEntry where
  approve : Option Float
  review : Option Float

structure Document where
  version : Option String
  thresholds : Option ThresholdEntry
  rules : List Entry

section

variable {ν : Type} [Structured ν]

open Structured

def Entry.ofValue? (v : ν) : Option Entry := do
  let f ← fields? ["id", "name", "expression", "weight", "enabled", "description"] v
  let id ← f.optional "id" text?
  let name ← f.optional "name" text?
  let expression ← f.optional "expression" text?
  let weight ← f.optional "weight" fun v => (float? v).map Weight.ofFloat
  let enabled ← f.optional "enabled" bool?
  let description ← f.optional "description" text?
  return { id, name, expression, weight, enabled, description }

def ThresholdEntry.ofValue? (v : ν) : Option ThresholdEntry := do
  let f ← fields? ["approve_threshold", "review_threshold"] v
  let approve ← f.optional "approve_threshold" float?
  let review ← f.optional "review_threshold" float?
  return { approve, review }

def entriesOfValue? (v : ν) : Option (List Entry) := (items? v).bind (·.mapM Entry.ofValue?)

/-- Takes a document out of a structured text of any format. -/
def Document.ofValue? (v : ν) : Option Document := do
  let f ← fields? ["version", "thresholds", "rules"] v
  let version ← f.optional "version" text?
  let thresholds ← f.optional "thresholds" ThresholdEntry.ofValue?
  let rules ← f.required "rules" entriesOfValue?
  return { version, thresholds, rules }

end

/-- The formats of rule files. -/
inductive Format where
  | json
  | yaml
deriving DecidableEq, Repr

/-- What follows the last point of a file name, unless nothing comes before it. -/
def extension? (name : List Char) : Option (List Char) :=
  match (name.splitOn '.').reverse with
  | [] | [_] | [_, []] => none
  | last :: _ => some last

/-- The format of a file by its path: the extension says which files are YAML. -/
def Format.ofPath (path : String) : Format :=
  match ((path.toList.splitOn '/').filter (· ≠ [])).getLast?.bind extension? with
  | some e => if e = ['y', 'a', 'm', 'l'] ∨ e = ['y', 'm', 'l'] then .yaml else .json
  | none => .json

/-- Reads a rule document. -/
def Document.parse : Format → String → Option Document
  | .json, s => (Json.parse s).bind Document.ofValue?
  | .yaml, s => (Yaml.Cursor.parse s).bind Document.ofValue?

end FraudScreen.Rules
