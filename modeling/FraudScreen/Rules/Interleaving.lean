import FraudScreen.Rules.Rulebook

/-!
# Interleaved loads

A load looks at its source twice, first for the marker and then for the document, and it changes the
store twice, first to publish and then to remember the marker. A check of the poller first reads the marker
and then compares it. Here each of these is a step of its own, and the source may change between any two of
them. Loads do not overlap. If nothing happens in between, the steps of a load together are `Store.reload`.
-/
namespace FraudScreen.Rules

/-- How far a load has come. -/
inductive Stage where
  /-- The marker was read. -/
  | started (m : Option Marker)
  /-- The document was read, or could not be. -/
  | read (m : Option Marker) (result : Except LoadError Ruleset)
  /-- The rule set is in force, and the marker is not yet remembered. -/
  | published (m : Option Marker)

/-- A load under way. -/
structure Load where
  stage : Stage
  /-- The poller asked for it, and not a caller. -/
  byPoller : Bool

/-- A source and its store in the midst of loads. -/
structure Loading where
  source : Source
  store : Store
  load : Option Load
  /-- The marker that the poller has read and not yet compared. -/
  seen : Option Marker
  /-- The marker at which the poller saw a need to load, until that load is done. -/
  wanted : Option Marker
  /-- The marker of a document that failed to load for the poller. -/
  failed : Option Marker

namespace Loading

/-- A source from which nothing was loaded yet. -/
def start (source : Source) : Loading := ⟨source, .empty, none, none, none, none⟩

/-- The poller reads the marker, unless it waits for a load. -/
def look (l : Loading) : Loading :=
  if l.wanted.isSome then l else { l with seen := l.source.marker? }

/-- The poller compares the marker that it has read, and asks for a load if it knows neither of a load nor
of a failure at this marker. -/
def check (l : Loading) : Loading :=
  match l.seen with
  | none => l
  | some m =>
    if l.store.marker == some m || l.failed == some m then { l with seen := none }
    else { l with seen := none, wanted := some m }

/-- A load begins by reading the marker, if none is under way. -/
def begin (l : Loading) (byPoller : Bool) : Loading :=
  if l.load.isSome || (byPoller && l.wanted.isNone) then l
  else { l with load := some ⟨.started l.source.marker?, byPoller⟩ }

/-- A load ends. The poller then keeps the marker that it saw if the load failed. -/
def finish (l : Loading) (byPoller succeeded : Bool) : Loading :=
  if byPoller then
    { l with load := none, wanted := none, failed := if succeeded then none else l.wanted }
  else { l with load := none }

/-- The next step of the load under way. -/
def advance (l : Loading) : Loading :=
  match l.load with
  | none => l
  | some ⟨.started m, p⟩ => { l with load := some ⟨.read m l.source.load, p⟩ }
  | some ⟨.read m (.ok r), p⟩ =>
    { l with store := l.store.publish r, load := some ⟨.published m, p⟩ }
  | some ⟨.read _ (.error e), p⟩ => { l with store := l.store.blame e }.finish p false
  | some ⟨.published m, p⟩ => { l with store := l.store.remember m }.finish p true

/-- What can happen at any time. -/
inductive Event where
  /-- Another document is put in place, and the source shows another marker. -/
  | change (o : Origin) (m : Marker)
  | setOffline (document marker : Bool)
  | look
  | check
  | begin (byPoller : Bool)
  | advance

/-- The state after an event. -/
def step (l : Loading) : Event → Loading
  | .change o m => { l with source := { l.source with origin := o, revision := m } }
  | .setOffline document marker => { l with source := l.source.setOffline document marker }
  | .look => l.look
  | .check => l.check
  | .begin byPoller => l.begin byPoller
  | .advance => l.advance

/-- The state after events in order. -/
def run (l : Loading) (es : List Event) : Loading := es.foldl step l

/-- A load whose steps follow one another does what `Store.reload` does. -/
theorem store_run_undisturbed (l : Loading) (h : l.load = none) :
    (l.run [.begin false, .advance, .advance, .advance]).store = (l.store.reload l.source).1 := by
  cases hs : l.source.load with
  | ok r => simp [run, step, begin, advance, finish, h, hs, Store.reload]
  | error e => simp [run, step, begin, advance, finish, h, hs, Store.reload]

/-- Replacing the document in memory is a change to the next marker. -/
theorem source_step_change (l : Loading) {old : Document} (h : l.source.origin = .memory old) (d : Document) :
    (l.step (.change (.memory d) (l.source.revision + 1))).source = l.source.replace d := by
  simp [step, Source.replace, Source.change, h]

end Loading

end FraudScreen.Rules
