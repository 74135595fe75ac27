import FraudScreen.Rules.Context
import FraudScreen.Rules.Ruleset
import FraudScreen.Rules.Stats

/-!
# Rule passes

A pass evaluates the enabled rules one after another. A rule triggers when its value exceeds one half,
and then adds its weight to the total. A rule that fails adds nothing and does not stop the pass; only a
crash of the evaluator does. `pass` is the plain definition: every rule is compiled anew and sees
nothing but the variables of the context at hand.
-/
namespace FraudScreen.Rules

/-- What became of one rule. -/
inductive Outcome where
  | value (x : Float)
  | failed (fault : Expr.RuleFault)
  | crashed

/-- A value above this triggers a rule. -/
def triggerThreshold : Float := 0.5

def Outcome.triggers : Outcome → Bool
  | value x => triggerThreshold < x
  | _ => false

def Outcome.isCrash : Outcome → Bool
  | crashed => true
  | _ => false

/-- Evaluates a compiled rule. -/
def Outcome.ofNode (b : Expr.Bindings) (n : Expr.Node) : Outcome :=
  match n.eval b with
  | .ok v =>
    match v.score with
    | .ok x => value x
    | .error f => failed f
  | .error (.error cause) => failed (.evaluation cause)
  | .error .crash => crashed

/-- Compiles a rule and evaluates it. -/
def Rule.outcome (b : Expr.Bindings) (r : Rule) : Outcome :=
  match Expr.compile r.expression with
  | .ok n => .ofNode b n
  | .error e => .failed (.malformed e)

/-- The result of a rule that has a value. -/
structure RuleResult where
  ruleId : String
  triggered : Bool
  /-- The weight of a rule that triggered, otherwise zero. -/
  score : Float
  value : Float

/-- The result of a rule with an outcome, if that is a value. -/
def Rule.result? (r : Rule) (o : Outcome) : Option RuleResult :=
  match o with
  | .value x => some ⟨r.id, o.triggers, if o.triggers then r.weight.toFloat else 0, x⟩
  | _ => none

/-- What a pass found. -/
structure PassResult where
  /-- The results of the rules that have a value, in order of evaluation. -/
  results : List RuleResult
  totalScore : Float
  triggered : Nat
  evaluated : Nat
  failed : Nat
  rulesVersion : String

namespace PassResult

/-- The result when no pass was made. -/
def empty : PassResult := ⟨[], 0, 0, 0, 0, ""⟩

/-- Counts the outcome of one rule. -/
def add (p : PassResult) (r : Rule) (o : Outcome) : PassResult :=
  match r.result? o with
  | some result =>
    { p with
      results := p.results ++ [result]
      totalScore := p.totalScore + result.score
      triggered := p.triggered + (if result.triggered then 1 else 0)
      evaluated := p.evaluated + 1 }
  | none => { p with failed := p.failed + 1 }

/-- Counts the outcomes of a pass one after another. -/
def ofOutcomes (version : String) (outcomes : List (Rule × Outcome)) : PassResult :=
  outcomes.foldl (fun p (r, o) => p.add r o) { empty with rulesVersion := version }

/-- The rules that triggered, in order of evaluation. -/
def triggeredRules (p : PassResult) : List String :=
  (p.results.filter (·.triggered)).map (·.ruleId)

end PassResult

/-- How long the rules of a pass took, by identifier, as a clock measures it. The rules take turns, so that together
they took a time as well. -/
structure Times where
  of : String → Duration
  total_le : ∀ ids : List String, ids.Nodup → Duration.total (ids.map of) ≤ mostNanos

/-- The clock did not go on. -/
def Times.zero : Times :=
  ⟨fun _ => .zero, fun ids _ => by induction ids <;> simp_all [Duration.total, Duration.zero]⟩

/-- The trials of a pass, as statistics count them. -/
def attemptsOf (times : Times) (outcomes : List (Rule × Outcome)) : List Attempt :=
  outcomes.map fun (r, o) => ⟨r.id, o.triggers, times.of r.id⟩

/-- A rule set in force, and which publication it was; zero stands for the empty set at the start. -/
structure Published where
  ruleset : Ruleset
  generation : Nat

def Published.initial : Published := ⟨.empty, 0⟩

/-- A pass is made once rules were loaded, for contexts that are valid. -/
def Published.admits (p : Published) (c : Context) : Bool := p.generation != 0 && c.isValid

/-- The outcomes of all enabled rules in a fresh table of bindings. -/
def outcomes (r : Ruleset) (c : Context) : List (Rule × Outcome) :=
  r.enabledRules.map fun rule => (rule, rule.outcome (c.bind []).1)

/-- The result of evaluating a context, or `none` if the evaluator crashes. -/
def pass (p : Published) (c : Context) : Option PassResult :=
  if p.admits c then
    let os := outcomes p.ruleset c
    if os.any (·.2.isCrash) then none else some (.ofOutcomes p.ruleset.version os)
  else some .empty

end FraudScreen.Rules
