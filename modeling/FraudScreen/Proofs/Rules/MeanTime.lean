import FraudScreen.Proofs.Rules.Counting
import FraudScreen.Rules.Store

/-!
# The mean time of a trial

The statistics of a rule add up the times of its trials since the last reset, whatever calls recorded them, as long as
these times are in range (`Store.counts_calls`). The mean divides that sum by the number of trials in 32 bits: it is
exact below 2³² trials, and beyond that it is too large, or there is none at all (`averageNanos_calls`).
-/
namespace FraudScreen.Rules

/-- Without trials the mean is zero, as any time over zero is. -/
theorem RuleStats.averageNanos_eq (s : RuleStats) :
    s.averageNanos =
      let n := s.evaluations.toNat
      if n ≠ 0 ∧ UInt32.size ∣ n then none else some (s.time.nanos / (n % UInt32.size)) := by
  have hzero : s.evaluations = 0 ↔ s.evaluations.toNat = 0 := UInt64.toNat_inj.symm
  have hnarrow : s.evaluations.toUInt32 = 0 ↔ s.evaluations.toNat % UInt32.size = 0 := by
    rw [← UInt32.toNat_inj, UInt64.toNat_toUInt32]
    rfl
  simp only [averageNanos, hzero, hnarrow, Nat.dvd_iff_mod_eq_zero, UInt64.toNat_toUInt32]
  by_cases h : s.evaluations.toNat = 0
  · simp [h]
  · by_cases hdvd : s.evaluations.toNat % UInt32.size = 0
    · simp [h, hdvd]
    · simp only [h, hdvd, if_false, ne_eq, not_false_eq_true, and_false]

namespace Store

/-- What changes the statistics of a store. -/
inductive Call where
  /-- A batch of trials, or a single one. -/
  | record (as : List Attempt)
  | reset
  | reload (source : Source)

def call (s : Store) : Call → Store
  | .record as => s.record as
  | .reset => s.resetTelemetry
  | .reload source => (s.reload source).1

def calls (s : Store) (cs : List Call) : Store := cs.foldl call s

/-- The trials that were recorded since the last reset, after one more call. -/
def Call.trialsAfter (past : List Attempt) : Call → List Attempt
  | .record as => past ++ as
  | .reset => []
  | .reload _ => past

/-- The trials that calls recorded since the last reset among them. -/
def trialsSinceReset (cs : List Call) : List Attempt := cs.foldl Call.trialsAfter []

/-- The times of those among them that are trials of a rule. -/
def timesSinceReset (id : String) (cs : List Call) : List Nat := timesOf id (trialsSinceReset cs)

/-- A load makes rules known, or leaves the statistics as they are; neither counts a trial. -/
theorem stats_reload (s : Store) (source : Source) (id : String) :
    (s.reload source).1.telemetry.stats id = s.telemetry.stats id := by
  cases h : source.load with
  | ok r =>
    have ht : (s.reload source).1.telemetry = s.telemetry.register (r.rules.map (·.id)) := by
      simp [reload, h, publish, remember]
    rw [ht, Telemetry.stats_register]
  | error e =>
    have ht : (s.reload source).1.telemetry = s.telemetry := by simp [reload, h, blame]
    rw [ht]

/-- A call keeps the trials counted whose times are in range. -/
theorem counts_call {s : Store} {past : List Attempt} (h : InRange past → s.telemetry.Counts past) (c : Call)
    (hrange : InRange (c.trialsAfter past)) : (s.call c).telemetry.Counts (c.trialsAfter past) := by
  cases c with
  | record as => exact Telemetry.counts_recordAll h hrange
  | reset => exact Telemetry.counts_nil s.telemetry.stats_reset
  | reload source => exact (h hrange).congr fun id => s.stats_reload source id

theorem counts_calls_from (cs : List Call) : ∀ {s : Store} {past : List Attempt},
    (InRange past → s.telemetry.Counts past) → InRange (cs.foldl Call.trialsAfter past) →
    (s.calls cs).telemetry.Counts (cs.foldl Call.trialsAfter past) := by
  induction cs with
  | nil => exact fun h => h
  | cons c cs ih => exact fun h => ih (counts_call h c)

/-- After any calls, statistics count the trials that were recorded since the last reset, if their times are in
range. -/
theorem counts_calls (cs : List Call) (h : InRange (trialsSinceReset cs)) :
    (empty.calls cs).telemetry.Counts (trialsSinceReset cs) :=
  counts_calls_from cs (fun _ => Telemetry.counts_nil fun _ => rfl) h

theorem averageNanos_of_counts {t : Telemetry} {as : List Attempt} (h : t.Counts as) {id : String}
    (hnumber : (timesOf id as).length < UInt64.size) :
    (t.stats id).averageNanos =
      let times := timesOf id as
      if times.length ≠ 0 ∧ UInt32.size ∣ times.length then none
      else some (times.sum / (times.length % UInt32.size)) := by
  have he : (t.stats id).evaluations.toNat = (timesOf id as).length := by
    rw [h.evaluations, ← length_timesOf, UInt64.toNat_ofNat_of_lt' hnumber]
  rw [RuleStats.averageNanos_eq, he, h.nanos]
  rfl

/-- **The mean time of a trial.** After any calls of which the times since the last reset are in range, the mean of a
rule is missing exactly if the number of its trials is a positive multiple of 2³², and otherwise divides the time of all
trials by their number in 32 bits. So it is the exact mean, and zero without trials, as long as there are fewer than 2³²
of them. -/
theorem averageNanos_calls (cs : List Call) (id : String) (hrange : InRange (trialsSinceReset cs))
    (hnumber : (timesSinceReset id cs).length < UInt64.size) :
    let mean := ((empty.calls cs).telemetry.stats id).averageNanos
    let times := timesSinceReset id cs
    (mean = none ↔ times ≠ [] ∧ UInt32.size ∣ times.length) ∧
      (∀ n, mean = some n → n = times.sum / (times.length % UInt32.size)) ∧
      (times.length < UInt32.size → mean = some (times.sum / times.length)) := by
  intro mean times
  have hmean : mean =
      if times.length ≠ 0 ∧ UInt32.size ∣ times.length then none
      else some (times.sum / (times.length % UInt32.size)) := averageNanos_of_counts (counts_calls cs hrange) hnumber
  rw [Ne, ← List.length_eq_zero_iff, hmean]
  by_cases h : times.length ≠ 0 ∧ UInt32.size ∣ times.length
  · -- A positive multiple of 2³² is not below it.
    have hge : UInt32.size ≤ times.length := Nat.le_of_dvd (Nat.pos_of_ne_zero h.1) h.2
    rw [if_pos h]
    refine ⟨iff_of_true rfl h, ?_, fun hlt => absurd hge (Nat.not_le_of_lt hlt)⟩
    intro n hn
    cases hn
  · rw [if_neg h]
    refine ⟨iff_of_false (Option.some_ne_none _) h, ?_, fun hlt => ?_⟩
    · intro n hn
      exact (Option.some.inj hn).symm
    · rw [Nat.mod_eq_of_lt hlt]

/-- What was recorded before a reset, or for another rule, is not in the mean. -/
theorem averageNanos_calls_afterReset :
    let cs : List Call := [.record [⟨"r", true, ⟨900, by decide⟩⟩], .reset,
      .record [⟨"r", true, ⟨4, by decide⟩⟩, ⟨"q", false, ⟨50, by decide⟩⟩], .record [⟨"r", false, ⟨7, by decide⟩⟩]]
    InRange (trialsSinceReset cs) ∧ (timesSinceReset "r" cs).length < UInt32.size ∧
      ((empty.calls cs).telemetry.stats "r").averageNanos = some 5 := by
  intro cs
  have hrange : InRange (trialsSinceReset cs) := inRange_of_sum_le (by decide)
  have htimes : timesSinceReset "r" cs = [4, 7] := by decide
  have hlt : (timesSinceReset "r" cs).length < UInt32.size := by
    rw [htimes]
    decide
  refine ⟨hrange, hlt, ?_⟩
  rw [(averageNanos_calls cs "r" hrange (Nat.lt_trans hlt (by decide))).2.2 hlt, htimes]
  rfl

/-- A batch of trials of a nanosecond each. -/
def nanosecondTrials (n : Nat) : Call := .record (List.replicate n ⟨"r", false, ⟨1, by decide⟩⟩)

theorem trialsSinceReset_nanosecondTrials (n : Nat) :
    trialsSinceReset [nanosecondTrials n] = List.replicate n ⟨"r", false, ⟨1, by decide⟩⟩ := rfl

theorem timesSinceReset_nanosecondTrials (n : Nat) :
    timesSinceReset "r" [nanosecondTrials n] = List.replicate n 1 := by
  simp [timesSinceReset, trialsSinceReset_nanosecondTrials, timesOf, Attempt.tries]

/-- 2³² trials of a nanosecond each have no mean, and after one more the mean is more than four seconds. -/
theorem averageNanos_nanosecondTrials :
    let mean (n : Nat) := ((empty.calls [nanosecondTrials n]).telemetry.stats "r").averageNanos
    let times (n : Nat) := timesSinceReset "r" [nanosecondTrials n]
    (∀ n, (times n).sum = n ∧ (times n).length = n) ∧
      mean UInt32.size = none ∧ mean (UInt32.size + 1) = some (UInt32.size + 1) := by
  intro mean times
  have htimes : ∀ n, (times n).sum = n ∧ (times n).length = n := by
    intro n
    simp only [times, timesSinceReset_nanosecondTrials]
    simp
  have hmean {n : Nat} (hn : n < UInt64.size) :
      mean n = if n ≠ 0 ∧ UInt32.size ∣ n then none else some (n / (n % UInt32.size)) := by
    obtain ⟨hsum, hcount⟩ := htimes n
    have hrange : InRange (trialsSinceReset [nanosecondTrials n]) := by
      refine inRange_of_sum_le ?_
      have hsmall : UInt64.size ≤ mostNanos := by decide
      simp only [trialsSinceReset_nanosecondTrials, List.map_replicate, List.sum_replicate_nat, Nat.mul_one]
      omega
    have h : mean n =
        if (times n).length ≠ 0 ∧ UInt32.size ∣ (times n).length then none
        else some ((times n).sum / ((times n).length % UInt32.size)) :=
      averageNanos_of_counts (counts_calls _ hrange) (hcount.symm ▸ hn)
    rwa [hsum, hcount] at h
  exact ⟨htimes, hmean (by decide), hmean (by decide)⟩

end Store

end FraudScreen.Rules
