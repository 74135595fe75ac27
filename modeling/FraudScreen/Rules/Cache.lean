import FraudScreen.Rules.Pass

/-!
# Compiled rules

A worker keeps the rules that it compiled, with the publication they belong to, and its table of
bindings, so that a rule is compiled once for each publication and the table is refreshed in place. Only
rules that compile are kept. Another publication empties the cache.
-/
namespace FraudScreen.Rules

/-- A rule that was compiled for a publication. -/
structure Compiled where
  generation : Nat
  node : Expr.Node

/-- The compiled rules of one worker by identifier, and its bindings. -/
structure Cache where
  generation : Nat
  bindings : Expr.Bindings
  compiled : List (String × Compiled)

namespace Cache

def empty : Cache := ⟨0, [], []⟩

/-- The number of compiled rules. -/
def size (c : Cache) : Nat := c.compiled.length

/-- The cache for a publication: itself, or an empty one if it was for another. -/
def forGeneration (c : Cache) (generation : Nat) : Cache :=
  if c.generation = generation then c else ⟨generation, [], []⟩

/-- Refreshes the bindings. Should a variable clash with its older type, the table is started anew. -/
def rebind (c : Cache) (ctx : Context) : Cache :=
  match ctx.bind c.bindings with
  | (b, none) => { c with bindings := b }
  | (_, some _) => { c with bindings := (ctx.bind []).1 }

/-- Evaluates a rule, compiling it unless that was done for this publication. -/
def evaluate (c : Cache) (generation : Nat) (r : Rule) : Cache × Outcome :=
  match (c.compiled.lookup r.id).filter (·.generation = generation) with
  | some entry => (c, .ofNode c.bindings entry.node)
  | none =>
    let others := c.compiled.filter (·.1 ≠ r.id)
    match Expr.compile r.expression with
    | .error e => ({ c with compiled := others }, .failed (.malformed e))
    | .ok n =>
      let o := Outcome.ofNode c.bindings n
      if o.isCrash then ({ c with compiled := others }, o)
      else ({ c with compiled := (r.id, ⟨generation, n⟩) :: others }, o)

/-- Evaluates rules one after another, up to a crash. -/
def evaluateAll (c : Cache) (generation : Nat) : List Rule → Cache × List (Rule × Outcome)
  | [] => (c, [])
  | r :: rest =>
    let (c, o) := c.evaluate generation r
    if o.isCrash then (c, [(r, o)])
    else
      let (c, os) := evaluateAll c generation rest
      (c, (r, o) :: os)

/-- The outcomes of the enabled rules of a publication for a context. -/
def run (c : Cache) (p : Published) (ctx : Context) : Cache × List (Rule × Outcome) :=
  ((c.forGeneration p.generation).rebind ctx).evaluateAll p.generation p.ruleset.enabledRules

end Cache

/-- The caches of all workers of all engines. Engines and workers are numbered. -/
abbrev Caches := List ((Nat × Nat) × Cache)

namespace Caches

def get (cs : Caches) (engine worker : Nat) : Cache := (cs.lookup (engine, worker)).getD .empty

/-- Removes the cache of a worker of an engine. -/
def clear (cs : Caches) (engine worker : Nat) : Caches := cs.filter (·.1 ≠ (engine, worker))

def set (cs : Caches) (engine worker : Nat) (c : Cache) : Caches :=
  ((engine, worker), c) :: cs.clear engine worker

/-- Removes the caches of all workers of an engine. -/
def release (cs : Caches) (engine : Nat) : Caches := cs.filter (·.1.1 ≠ engine)

end Caches

end FraudScreen.Rules
