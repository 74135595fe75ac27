import FraudScreen.Rules.Cache
import FraudScreen.Rules.Rulebook

/-!
# Sessions

A rulebook with the engines that evaluate its rules. Every engine has a cache for each worker that runs
it. A session goes on by actions; each leaves the next session, and evaluations an answer.
-/
namespace FraudScreen.Rules

structure Session where
  book : Rulebook
  /-- The engines that are there, by number. -/
  engines : List Nat
  /-- The number of the next engine. -/
  nextEngine : Nat
  caches : Caches

namespace Session

/-- A session with one engine, from whose source nothing was loaded yet. -/
def start (o : Origin) : Session := ⟨.start o, [0], 1, []⟩

/-- Evaluates a context by a worker of an engine, with rules that take the given times. There is no answer if the pass
has no result. -/
def evaluate (s : Session) (engine worker : Nat) (ctx : Context) (times : Times) : Session × Option PassResult :=
  let published := s.book.store.current
  if published.admits ctx then
    let (cache, os) := (s.caches.get engine worker).run published ctx
    let (store, result) := s.book.store.finishPass published.ruleset.version times os
    ({ s with book := { s.book with store }, caches := s.caches.set engine worker cache }, result)
  else (s, some .empty)

/-- The number of rules that a worker of an engine has compiled. -/
def cachedRules (s : Session) (engine worker : Nat) : Nat := (s.caches.get engine worker).size

def clearCache (s : Session) (engine worker : Nat) : Session :=
  { s with caches := s.caches.clear engine worker }

def addEngine (s : Session) : Session :=
  { s with engines := s.engines ++ [s.nextEngine], nextEngine := s.nextEngine + 1 }

/-- Drops an engine with its caches. -/
def dropEngine (s : Session) (engine : Nat) : Session :=
  { s with engines := s.engines.filter (· ≠ engine), caches := s.caches.release engine }

/-- What can happen in a session. -/
inductive Action where
  | replace (d : Document)
  | write (content : File)
  | setOffline (document marker : Bool)
  | reload
  | evaluate (engine worker : Nat) (ctx : Context) (times : Times)
  | clearCache (engine worker : Nat)
  | addEngine
  | dropEngine (engine : Nat)
  | record (a : Attempt)
  | resetTelemetry
  | enablePolling (interval : Nat) (observer : Option CallResult)
  | disablePolling
  | poll

/-- The session after an action. An engine that is not there does nothing. -/
def step (s : Session) : Action → Session
  | .replace d => { s with book := { s.book with source := s.book.source.replace d } }
  | .write content => { s with book := { s.book with source := s.book.source.write content } }
  | .setOffline document marker =>
    { s with book := { s.book with source := s.book.source.setOffline document marker } }
  | .reload => { s with book := s.book.reload.1 }
  | .evaluate engine worker ctx times =>
    if engine ∈ s.engines then (s.evaluate engine worker ctx times).1 else s
  | .clearCache engine worker => if engine ∈ s.engines then s.clearCache engine worker else s
  | .addEngine => s.addEngine
  | .dropEngine engine => s.dropEngine engine
  | .record a => { s with book := { s.book with store := s.book.store.record [a] } }
  | .resetTelemetry => { s with book := { s.book with store := s.book.store.resetTelemetry } }
  | .enablePolling interval observer =>
    match s.book.enablePolling interval observer with
    | .ok book => { s with book := book }
    | .error _ => s
  | .disablePolling => { s with book := s.book.disablePolling }
  | .poll => { s with book := s.book.poll }

/-- The session after actions in order. -/
def run (s : Session) (as : List Action) : Session := as.foldl step s

@[simp] theorem run_nil (s : Session) : s.run [] = s := rfl

@[simp] theorem run_cons (s : Session) (a : Action) (as : List Action) :
    s.run (a :: as) = (s.step a).run as := rfl

@[simp] theorem run_append (s : Session) (as bs : List Action) :
    s.run (as ++ bs) = (s.run as).run bs := List.foldl_append

end Session

end FraudScreen.Rules
