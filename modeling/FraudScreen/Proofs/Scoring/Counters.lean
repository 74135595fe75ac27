import FraudScreen.Proofs.Scoring.Basis
import Mathlib

/-!
# Counters and records

Scorers may share their counters, and a call counts at several places. Whatever is done to the scorers, the
counters tell of the records that were given out (`Metrics.Tells`, `serve_tells`): a call that ends without a
record counts neither a decision nor a search, and loads have counters of their own.
-/
namespace FraudScreen

open Payment (Decision DecisionRecord)
open Rules (Context PassResult Session Times)

namespace Metrics

/-- The number of decisions with an outcome. -/
def decidedAs (k : Metrics) : Decision → Nat
  | .approve => k.approved
  | .review => k.reviewed
  | .decline => k.declined

/-- The counters agree with the records that were given out. -/
structure Tells (k : Metrics) (rs : List DecisionRecord) : Prop where
  decisions : k.decisions = rs.length
  outcomes : ∀ d, k.decidedAs d = rs.countP (·.decision = d)
  total : k.decisions = k.approved + k.reviewed + k.declined
  scans : k.scans = rs.length
  blacklistHits : k.blacklistHits = (rs.map (·.blacklistHits)).sum
  whitelistHits : k.whitelistHits = (rs.map (·.whitelistHits)).sum
  rulesTriggered : k.rulesTriggered = (rs.map (·.triggeredRules.length)).sum
  triggered_le : k.rulesTriggered ≤ k.rulesEvaluated

variable {k : Metrics} {rs : List DecisionRecord}

theorem tells_zero : zero.Tells [] := by
  refine ⟨rfl, fun d => ?_, rfl, rfl, rfl, rfl, rfl, Nat.le_refl 0⟩
  cases d <;> rfl

/-- Times and loads are not told of. -/
theorem Tells.aside (h : k.Tells rs) (timings reloads reloadErrors : Nat) :
    { k with timings, reloads, reloadErrors }.Tells rs := by
  refine ⟨h.decisions, fun d => ?_, h.total, h.scans, h.blacklistHits, h.whitelistHits, h.rulesTriggered,
    h.triggered_le⟩
  have houtcomes := h.outcomes d
  cases d <;> exact houtcomes

theorem Tells.countTiming (h : k.Tells rs) : k.countTiming.Tells rs :=
  h.aside (k.timings + 1) k.reloads k.reloadErrors

theorem Tells.countReload (h : k.Tells rs) (succeeded : Bool) : (k.countReload succeeded).Tells rs :=
  h.aside k.timings (k.reloads + 1) (k.reloadErrors + if succeeded then 0 else 1)

theorem countDecision_eq (k : Metrics) (d : Decision) :
    k.countDecision d =
      { k with
        decisions := k.decisions + 1
        approved := k.approved + if d = .approve then 1 else 0
        reviewed := k.reviewed + if d = .review then 1 else 0
        declined := k.declined + if d = .decline then 1 else 0 } := by
  cases d <;> rfl

/-- The three counts of a call keep in step with its record. -/
theorem Tells.countRecord (h : k.Tells rs) {m : PassResult} {r : DecisionRecord}
    (hrules : r.triggeredRules = m.triggeredRules) (htriggered : m.triggered = m.triggeredRules.length)
    (hle : m.triggered ≤ m.evaluated) : (k.countRecord m r).Tells (rs ++ [r]) := by
  refine Tells.countTiming ?_
  rw [countDecision_eq]
  refine ⟨?_, fun d => ?_, ?_, ?_, ?_, ?_, ?_, ?_⟩
  · simp [countScan, countPass, h.decisions]
  · have houtcomes := h.outcomes d
    cases d <;> simp_all [decidedAs, countScan, countPass]
  · have htotal := h.total
    cases r.decision <;> simp [countScan, countPass, htotal] <;> omega
  · simp [countScan, countPass, h.scans]
  · simp [countScan, countPass, h.blacklistHits]
  · simp [countScan, countPass, h.whitelistHits]
  · simp [countScan, countPass, h.rulesTriggered, hrules, htriggered]
  · exact Nat.add_le_add h.triggered_le hle

def counts (k : Metrics) : List Nat :=
  [k.decisions, k.approved, k.reviewed, k.declined, k.timings, k.rulesEvaluated, k.rulesTriggered, k.rulesFailed,
    k.scans, k.blacklistHits, k.whitelistHits, k.reloads, k.reloadErrors]

/-- As long as no counter was full, a reader sees what was counted. -/
theorem reading_of_counts_lt (h : ∀ n ∈ k.counts, n < UInt64.size) : k.reading = k := by
  simp only [counts, List.forall_mem_cons] at h
  simp [reading, shown, Nat.mod_eq_of_lt, *]

end Metrics

namespace Rules

/-- What a pass counts as triggered are the rules that it names. -/
theorem Session.triggered_evaluate {s : Session} {engine worker : Nat} {ctx : Context} {times : Times}
    {m : PassResult} (h : (s.evaluate engine worker ctx times).2 = some m) :
    m.triggered = m.triggeredRules.length ∧ m.triggered ≤ m.evaluated := by
  have htallies : ∃ done, m.Tallies done := by
    unfold evaluate at h
    dsimp only at h
    split at h
    · exact ⟨_, (Store.eq_ofOutcomes_of_finishPass h).symm ▸ PassResult.tallies_ofOutcomes _ _⟩
    · exact ⟨[], Option.some.inj h ▸ PassResult.tallies_empty ""⟩
  obtain ⟨done, ht⟩ := htallies
  refine ⟨ht.triggered, ?_⟩
  rw [ht.triggered, ht.evaluated, PassResult.triggeredRules, List.length_map]
  exact List.length_filter_le ..

/-- What an action does to the counters is to count a load, if it makes one. -/
theorem Session.metrics_step (s : Session) (a : Action) :
    (s.step a).book.metrics =
      match s.load? a with
      | none => s.book.metrics
      | some result => s.book.metrics.countReload result.toBool := by
  have hm := s.moves_step a
  cases hq : s.load? a with
  | none =>
    rw [hq] at hm
    exact hm.sameLoads.metrics
  | some result =>
    rw [hq] at hm
    obtain ⟨b, hl, -, hmetrics⟩ := hm.loads
    rw [hmetrics]
    cases hl with
    | replaced => rfl
    | blamed => rfl

end Rules

namespace Scoring

/-- The record that is given out, if the transaction is decided. -/
def Result.record? : Result → Option DecisionRecord
  | .decided r => some r
  | _ => none

/-- The records that are given out, in order. -/
def records (results : List Result) : List DecisionRecord := results.filterMap Result.record?

namespace Scorer

variable {s : Scorer} {now : Calendar.Timestamp} {c : Context} {modelScores : List Float} {times : Times}
  {rs : List DecisionRecord}

/-- A scorer that counts on from given counters. -/
def counting (s : Scorer) (k : Metrics) : Scorer := s.count fun _ => k

theorem metrics_evaluated (s : Scorer) (c : Context) (times : Times) :
    (s.evaluated c times).metrics = s.metrics := by
  obtain ⟨t, h⟩ := s.rules.book_evaluate engine 0 c times
  exact congrArg (·.metrics) h

/-- A call counts its record, if it gives one out. -/
theorem Scores.tells {t : Scorer} {result : Result} (hs : s.Scores now c modelScores times t result)
    (h : s.metrics.Tells rs) : t.metrics.Tells (rs ++ result.record?.toList) := by
  have hevaluated := s.metrics_evaluated c times
  cases hs with
  | invalid hv => simpa [Result.record?] using h
  | crashed hv he =>
    have hk : ((s.evaluated c times).count .countTiming).metrics = s.metrics.countTiming :=
      congrArg Metrics.countTiming hevaluated
    rw [hk]
    simpa [Result.record?] using h.countTiming
  | @decided m hv he =>
    have hk : (((s.evaluated c times).screened c.transaction).count
        (·.countRecord m (s.recordOf c modelScores m))).metrics =
        s.metrics.countRecord m (s.recordOf c modelScores m) :=
      congrArg (Metrics.countRecord · m (s.recordOf c modelScores m)) hevaluated
    obtain ⟨htriggered, hle⟩ := Session.triggered_evaluate he
    rw [hk]
    exact h.countRecord rfl htriggered hle

theorem tells_step (h : s.metrics.Tells rs) (a : Step) :
    (s.step a).1.metrics.Tells (rs ++ records (s.step a).2.toList) := by
  cases a with
  | score now c modelScores times =>
    have hs := (s.scores_score now c modelScores times).tells h
    simp only [step_score, Option.toList, records, List.filterMap_cons, List.filterMap_nil]
    cases hr : (s.score now c modelScores times).2.record? <;> simpa only [hr, Option.toList] using hs
  | rules a =>
    have hk : { s with rules := s.rules.step a }.metrics.Tells rs := by
      rw [metrics, s.rules.metrics_step a]
      cases s.rules.load? a with
      | none => exact h
      | some result => exact h.countReload _
    simpa [records, step] using hk
  | patterns op =>
    have hk : { s with screener := (s.screener.step op).1 }.metrics.Tells rs := h
    simpa [records, step] using hk

/-- A transaction that is turned away leaves everything as it was. -/
theorem score_of_invalid {v : Payment.Violation} (h : (s.score now c modelScores times).2 = .invalid v) :
    (s.score now c modelScores times).1 = s := by
  have hs := s.scores_score now c modelScores times
  generalize s.score now c modelScores times = x at hs h ⊢
  obtain ⟨t, result⟩ := x
  subst h
  cases hs with
  | invalid => rfl

end Scorer

/-! ## Shared counters -/

/-- Something that is done to a scorer, in the state in which it finds the scorer. -/
structure Turn where
  scorer : Scorer
  step : Scorer.Step

/-- What becomes of the counters that scorers share when one after another has its turn, and the results of the
transactions that are scored. -/
def serve (k : Metrics) : List Turn → Metrics × List Result
  | [] => (k, [])
  | t :: ts =>
    let (s, result) := (t.scorer.counting k).step t.step
    let (k, results) := serve s.metrics ts
    (k, result.toList ++ results)

/-- The turns that a scorer has when it goes through steps. -/
def Scorer.turns (s : Scorer) : List Scorer.Step → List Turn
  | [] => []
  | a :: as => ⟨s, a⟩ :: (s.step a).1.turns as

/-- A single scorer shares its counters with nobody. -/
theorem serve_turns (as : List Scorer.Step) : ∀ s : Scorer,
    serve s.metrics (s.turns as) = ((s.run as).metrics, s.results as) := by
  induction as with
  | nil => exact fun s => rfl
  | cons a as ih =>
    intro s
    have hcounting : s.counting s.metrics = s := rfl
    simp only [Scorer.turns, serve, hcounting, ih, Scorer.results]
    rfl

theorem records_append (xs ys : List Result) : records (xs ++ ys) = records xs ++ records ys :=
  List.filterMap_append

theorem tells_serve (ts : List Turn) : ∀ {k : Metrics} {rs : List DecisionRecord}, k.Tells rs →
    (serve k ts).1.Tells (rs ++ records (serve k ts).2) := by
  induction ts with
  | nil =>
    intro k rs h
    simpa [serve, records] using h
  | cons t ts ih =>
    intro k rs h
    have hstep := ih (Scorer.tells_step (s := t.scorer.counting k) h t.step)
    rwa [List.append_assoc, ← records_append] at hstep

/-- **Counters add up.** Whatever is done to scorers that share their counters, the counters tell of the records
that were given out: there are as many decisions and as many searches as records, every outcome is counted as often
as it stands in a record, and hits and triggered rules are the sums over the records. So does what a reader of the
counters sees, as long as no counter was full. A transaction that is turned away leaves its scorer as it was, with
all counters and statistics. -/
theorem serve_tells (ts : List Turn) :
    let k := (serve .zero ts).1
    let rs := records (serve .zero ts).2
    k.Tells rs ∧ ((∀ n ∈ k.counts, n < UInt64.size) → k.reading.Tells rs) ∧
      ∀ (s : Scorer) (now : Calendar.Timestamp) (c : Context) (modelScores : List Float) (times : Times)
          (v : Payment.Violation),
        (s.score now c modelScores times).2 = .invalid v → (s.score now c modelScores times).1 = s := by
  intro k rs
  have h : k.Tells rs := tells_serve ts Metrics.tells_zero
  refine ⟨h, fun hlt => ?_, fun s now c modelScores times v => Scorer.score_of_invalid⟩
  rw [Metrics.reading_of_counts_lt hlt]
  exact h

end Scoring

end FraudScreen
