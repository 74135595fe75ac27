import FraudScreen.Metrics
import FraudScreen.Rules.Store

/-!
# Rulebooks

A store with its source and the poller that watches it. The poller looks at the marker of the source and
loads the document when the marker is neither that of the loaded document nor that of a document that
failed to load. A caller may ask to be called with every rule set that the poller publishes; how the call
ends makes no difference.
-/
namespace FraudScreen.Rules

/-- How a call to an observer ends. -/
inductive CallResult where
  | returned
  | refused
  | crashed
deriving DecidableEq, Repr

/-- The poller of a rulebook while it runs. -/
structure Poller where
  /-- The marker of a document that failed to load and is not tried again. -/
  failed : Option Marker
  /-- How calls to the observer end, if there is one. -/
  observer : Option CallResult

/-- Why polling could not be enabled. -/
inductive PollingError where
  | zeroInterval
  | alreadyEnabled
  | notLoaded
deriving DecidableEq, Repr

def PollingError.message : PollingError → String
  | zeroInterval => "Hot reload error: interval must be positive"
  | alreadyEnabled => "Hot reload error: hot reload already enabled"
  | notLoaded => "Hot reload error: rules not loaded yet"

structure Rulebook where
  source : Source
  store : Store
  metrics : Metrics
  poller : Option Poller
  /-- The rule sets with which observers were called. -/
  notified : List Published

namespace Rulebook

/-- A rulebook from which nothing was loaded yet. -/
def start (o : Origin) : Rulebook := ⟨.start o, .empty, .zero, none, []⟩

/-- Loads the rules and counts the attempt. -/
def reload (b : Rulebook) : Rulebook × Except LoadError Published :=
  let (store, result) := b.store.reload b.source
  ({ b with store := store, metrics := b.metrics.countReload result.toBool }, result)

/-- The versions of the rule sets with which observers were called. -/
def calls (b : Rulebook) : List String := b.notified.map (·.ruleset.version)

/-- Calls the observer of a poller. Its result is of no consequence. -/
def notify (b : Rulebook) (p : Poller) (published : Published) : Rulebook :=
  match p.observer with
  | none => b
  | some .returned | some .refused | some .crashed =>
    { b with notified := b.notified ++ [published] }

/-- The marker asks for no load: it is that of the loaded document, or of one that failed. -/
def isSettled (b : Rulebook) (p : Poller) (m : Marker) : Bool :=
  b.store.marker == some m || p.failed == some m

/-- One check of the poller, if it runs. -/
def poll (b : Rulebook) : Rulebook :=
  match b.poller, b.source.marker? with
  | some p, some m =>
    if b.isSettled p m then b
    else
      match b.reload with
      | (b, .ok published) =>
        let p := { p with failed := none }
        { b with poller := some p }.notify p published
      | (b, .error _) => { b with poller := some { p with failed := some m } }
  | _, _ => b

/-- Starts the poller, which runs every `interval` milliseconds. -/
def enablePolling (b : Rulebook) (interval : Nat) (observer : Option CallResult) :
    Except PollingError Rulebook :=
  if interval = 0 then .error .zeroInterval
  else if b.poller.isSome then .error .alreadyEnabled
  else if !b.store.isInitialized then .error .notLoaded
  else .ok { b with poller := some ⟨none, observer⟩ }

/-- Stops the poller, if it runs. -/
def disablePolling (b : Rulebook) : Rulebook := { b with poller := none }

end Rulebook

end FraudScreen.Rules
