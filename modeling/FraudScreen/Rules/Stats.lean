/-!
# Rule statistics

How often each rule was tried and how often it triggered, and how long its trials took together. A rule
has statistics from its first publication on, and keeps them when it leaves the rule set.

The counts have 64 bits, and times end at a longest one. A trial whose time cannot be added any more breaks the count
off: it is already among the evaluations then, but never among the hits, and the trials after it are lost.
-/
namespace FraudScreen.Rules

/-- The longest time in nanoseconds: 64 bits of seconds, and what is left of one more. -/
def mostNanos : Nat := UInt64.size * 1000000000 - 1

/-- A time that was measured. -/
structure Duration where
  nanos : Nat
  le_most : nanos ≤ mostNanos
deriving DecidableEq, Repr

namespace Duration

def zero : Duration := ⟨0, Nat.zero_le _⟩

def longest : Duration := ⟨mostNanos, Nat.le_refl _⟩

/-- How many nanoseconds times last together. -/
def total : List Duration → Nat
  | [] => 0
  | d :: ds => d.nanos + total ds

/-- The sum of two times, unless it is too long. -/
def add? (a b : Duration) : Option Duration :=
  if h : a.nanos + b.nanos ≤ mostNanos then some ⟨a.nanos + b.nanos, h⟩ else none

end Duration

/-- The statistics of one rule. -/
structure RuleStats where
  hits : UInt64
  evaluations : UInt64
  /-- The time of all trials. -/
  time : Duration
deriving DecidableEq, Repr

namespace RuleStats

def zero : RuleStats := ⟨0, 0, .zero⟩

/-- The share of trials that triggered, in percent. -/
def hitRate (s : RuleStats) : Float :=
  if s.evaluations = 0 then 0 else s.hits.toFloat / s.evaluations.toFloat * 100

/-- The mean time of a trial in whole nanoseconds. The number of trials is taken in 32 bits; there is no
mean if it is zero there although there were trials. -/
def averageNanos (s : RuleStats) : Option Nat :=
  if s.evaluations = 0 then some 0
  else if s.evaluations.toUInt32 = 0 then none
  else some (s.time.nanos / s.evaluations.toUInt32.toNat)

/-- The time of one more trial can be added. -/
def fits (s : RuleStats) (time : Duration) : Bool := (s.time.add? time).isSome

/-- Counts one trial, as far as its time can be added. -/
def count (s : RuleStats) (triggered : Bool) (time : Duration) : RuleStats :=
  match s.time.add? time with
  | some total => ⟨s.hits + (if triggered then 1 else 0), s.evaluations + 1, total⟩
  | none => { s with evaluations := s.evaluations + 1 }

end RuleStats

/-- One trial of a rule: its identifier, whether it triggered, and the time it took. -/
structure Attempt where
  ruleId : String
  triggered : Bool
  time : Duration
deriving DecidableEq, Repr

/-- The statistics of all rules by identifier, in the order in which they became known. -/
abbrev Telemetry := List (String × RuleStats)

namespace Telemetry

/-- The statistics of a rule, which are zero if it has none. -/
def stats (t : Telemetry) (id : String) : RuleStats := (t.lookup id).getD .zero

/-- Changes the statistics of a rule, which are zero until then. -/
def update (t : Telemetry) (id : String) (f : RuleStats → RuleStats) : Telemetry :=
  match t with
  | [] => [(id, f .zero)]
  | (name, s) :: rest => if name = id then (name, f s) :: rest else (name, s) :: update rest id f

/-- Makes rules known; what is known of them already stays. -/
def register (t : Telemetry) (ids : List String) : Telemetry := ids.foldl (·.update · id) t

/-- The time of a trial can be added to those of its rule. -/
def fits (t : Telemetry) (a : Attempt) : Bool := (t.stats a.ruleId).fits a.time

/-- Counts a trial. -/
def record (t : Telemetry) (a : Attempt) : Telemetry :=
  t.update a.ruleId (·.count a.triggered a.time)

/-- Counts trials one after another, up to one whose time cannot be added. -/
def recordAll (t : Telemetry) : List Attempt → Telemetry
  | [] => t
  | a :: as => if t.fits a then recordAll (t.record a) as else t.record a

/-- The times of trials can be added one after another. -/
def fitsAll (t : Telemetry) : List Attempt → Bool
  | [] => true
  | a :: as => t.fits a && fitsAll (t.record a) as

/-- Forgets all counts, but not which rules are known. -/
def reset (t : Telemetry) : Telemetry := t.map fun (id, _) => (id, .zero)

end Telemetry

end FraudScreen.Rules
