import FraudScreen.Rules.Session

/-!
# Workers side by side

The workers that run the engines of one rulebook, each with caches of its own. An evaluation takes two steps. First it
takes the rule set in force, later it evaluates the rules of this set; in between rules may be loaded, and the
other workers go on. Whoever drops an engine removes only his own cache for it. Every other worker releases
its cache at the beginning of a later pass, when it finds that engines were dropped since it last looked. If the
steps of each evaluation follow one another, the workers do what a `Session` does.
-/
namespace FraudScreen.Rules

/-- An evaluation that has taken a rule set and not yet evaluated its rules. -/
structure Evaluation where
  worker : Nat
  engine : Nat
  ctx : Context
  published : Published

/-- What a worker keeps from one evaluation to the next. -/
structure Worker where
  /-- How many engines had been dropped when the worker last released caches. -/
  epoch : Nat
  /-- Its caches by engine. -/
  caches : List (Nat × Cache)

namespace Worker

def fresh : Worker := ⟨0, []⟩

/-- The cache for an engine, empty if there is none. -/
def cache (w : Worker) (engine : Nat) : Cache := (w.caches.lookup engine).getD .empty

/-- Removes the cache for an engine. -/
def discard (w : Worker) (engine : Nat) : Worker := { w with caches := w.caches.filter (·.1 ≠ engine) }

def keep (w : Worker) (engine : Nat) (c : Cache) : Worker :=
  { w with caches := (engine, c) :: (w.discard engine).caches }

/-- Releases the caches for engines that are not there any more, if engines were dropped since this was done. -/
def prune (w : Worker) (drops : Nat) (engines : List Nat) : Worker :=
  if w.epoch = drops then w else ⟨drops, w.caches.filter (·.1 ∈ engines)⟩

/-- The pass of an evaluation, with the outcomes of the rules. -/
def pass (w : Worker) (drops : Nat) (engines : List Nat) (e : Evaluation) : Worker × List (Rule × Outcome) :=
  let w := w.prune drops engines
  let found := (w.cache e.engine).run e.published e.ctx
  (w.keep e.engine found.1, found.2)

end Worker

/-- The rulebook after an action in which no engine takes part: what the action does without engines. -/
def Rulebook.after (b : Rulebook) (a : Session.Action) : Rulebook := (Session.step ⟨b, [], 0, []⟩ a).book

/-- A rulebook, its engines, and the workers that run them. -/
structure Crew where
  book : Rulebook
  /-- The engines that are there, by number. -/
  engines : List Nat
  /-- The number of the next engine. -/
  nextEngine : Nat
  /-- How many engines were dropped so far. -/
  drops : Nat
  workers : Nat → Worker
  /-- The evaluations between their two steps, one at most for each worker. -/
  underway : List Evaluation

namespace Crew

/-- Workers with one engine, from whose source nothing was loaded yet. -/
def start (o : Origin) : Crew := ⟨.start o, [0], 1, 0, fun _ => .fresh, []⟩

/-- The number of rules that a worker has compiled for an engine. -/
def cachedRules (c : Crew) (engine worker : Nat) : Nat := ((c.workers worker).cache engine).size

def assign (c : Crew) (worker : Nat) (w : Worker) : Crew :=
  { c with workers := fun i => if i = worker then w else c.workers i }

/-- The evaluation of a worker that is under way. -/
def evaluation? (c : Crew) (worker : Nat) : Option Evaluation := c.underway.find? (·.worker = worker)

/-- The worker is in no evaluation. -/
def isFree (c : Crew) (worker : Nat) : Bool := (c.evaluation? worker).isNone

/-- No evaluation for the engine is under way. -/
def isIdle (c : Crew) (engine : Nat) : Bool := c.underway.all (·.engine ≠ engine)

def clearCache (c : Crew) (engine worker : Nat) : Crew := c.assign worker ((c.workers worker).discard engine)

def addEngine (c : Crew) : Crew :=
  { c with engines := c.engines ++ [c.nextEngine], nextEngine := c.nextEngine + 1 }

/-- A worker drops an engine, with its own cache for it. -/
def dropEngine (c : Crew) (engine worker : Nat) : Crew :=
  { c.clearCache engine worker with engines := c.engines.filter (· ≠ engine), drops := c.drops + 1 }

/-- The first step of an evaluation. -/
def begin (c : Crew) (engine worker : Nat) (ctx : Context) : Crew :=
  { c with underway := ⟨worker, engine, ctx, c.book.store.current⟩ :: c.underway }

def endEvaluation (c : Crew) (worker : Nat) : Crew := { c with underway := c.underway.filter (·.worker ≠ worker) }

/-- The second step of the evaluation of a worker, with rules that take the given times, and its answer. There is none
if the pass has no result, or if the worker is in no evaluation. -/
def finish (c : Crew) (worker : Nat) (times : Times) : Crew × Option PassResult :=
  match c.evaluation? worker with
  | none => (c, none)
  | some e =>
    if e.published.admits e.ctx then
      let found := (c.workers worker).pass c.drops c.engines e
      let (store, result) := c.book.store.finishPass e.published.ruleset.version times found.2
      ({ (c.endEvaluation worker).assign worker found.1 with book := { c.book with store } }, result)
    else (c.endEvaluation worker, some .empty)

/-- What can happen at any time. -/
inductive Event where
  /-- Something happens to the rulebook, and no engine takes part. -/
  | book (a : Session.Action)
  | addEngine
  | dropEngine (engine worker : Nat)
  | clearCache (engine worker : Nat)
  | begin (engine worker : Nat) (ctx : Context)
  | finish (worker : Nat) (times : Times)

/-- The workers after an event. A worker does one thing at a time, and with engines that are there. An engine cannot be
dropped while an evaluation for it is under way. -/
def step (c : Crew) : Event → Crew
  | .book a => { c with book := c.book.after a }
  | .addEngine => c.addEngine
  | .dropEngine engine worker =>
    if engine ∈ c.engines ∧ c.isFree worker ∧ c.isIdle engine then c.dropEngine engine worker else c
  | .clearCache engine worker => if engine ∈ c.engines ∧ c.isFree worker then c.clearCache engine worker else c
  | .begin engine worker ctx => if engine ∈ c.engines ∧ c.isFree worker then c.begin engine worker ctx else c
  | .finish worker times => (c.finish worker times).1

/-- The workers after events in order. -/
def run (c : Crew) (es : List Event) : Crew := es.foldl step c

@[simp] theorem run_nil (c : Crew) : c.run [] = c := rfl

@[simp] theorem run_cons (c : Crew) (e : Event) (es : List Event) : c.run (e :: es) = (c.step e).run es := rfl

@[simp] theorem run_append (c : Crew) (es fs : List Event) : c.run (es ++ fs) = (c.run es).run fs :=
  List.foldl_append

end Crew

end FraudScreen.Rules
