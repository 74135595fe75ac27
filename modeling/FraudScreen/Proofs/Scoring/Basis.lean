import FraudScreen.Proofs.Rules.LoadHistory
import FraudScreen.Proofs.Rules.CacheTransparency
import FraudScreen.Proofs.Rules.Crashes
import FraudScreen.Proofs.Screening.Freshness
import FraudScreen.Scoring.Scorer

/-!
# What a score rests on

A scorer keeps caches, statistics and counters from one transaction to the next. None of them has a say in a
result: it rests on the rules in force, the compiled patterns and the name of the models only (`Basis`), as long as
statistics can take up the times of the rules. `Scores` lists what a call can do to a scorer; from it follow that a
result is that of the basis (`score_eq_result`) and that scoring leaves the basis as it is (`basis_score`).
-/
namespace FraudScreen

open Payment (DecisionRecord)
open Rules (Context PassResult Published Thresholds Times)
open Screening (Database Findings)

/-- Counts all there is to count of a transaction with a record. -/
def Metrics.countRecord (k : Metrics) (m : PassResult) (r : DecisionRecord) : Metrics :=
  (((k.countPass m.evaluated m.triggered m.failed).countScan r.blacklistHits r.whitelistHits).countDecision
    r.decision).countTiming

/-- A pass names the rule set whose rules it evaluated, if it evaluated any. -/
theorem Rules.rulesVersion_of_pass {p : Published} {c : Context} {m : PassResult} (h : Rules.pass p c = some m) :
    m.rulesVersion = if p.admits c then p.ruleset.version else "" := by
  cases ha : p.admits c with
  | true =>
    obtain ⟨-, rfl⟩ := (Rules.pass_eq_some_iff ha).1 h
    exact PassResult.rulesVersion_ofOutcomes ..
  | false =>
    simp only [Rules.pass, ha] at h
    cases h
    rfl

namespace Rules.Session

/-- An evaluation leaves the rule set in force. -/
theorem current_evaluate (s : Session) (engine worker : Nat) (ctx : Context) (times : Times) :
    (s.evaluate engine worker ctx times).1.book.store.current = s.book.store.current := by
  obtain ⟨t, h⟩ := s.book_evaluate engine worker ctx times
  rw [h]

end Rules.Session

namespace Scoring

/-- The rules in force, the compiled patterns if there are any, and the name of the models. -/
structure Basis where
  published : Published
  database : Option Database
  modelVersion : String

namespace Basis

/-- What is found in a transaction. -/
def findings (b : Basis) (tx : Payment.Transaction) : Findings :=
  match b.database with
  | some d => d.find (.transaction tx)
  | none => .empty

/-- The record of a transaction whose rules gave `m`, decided under the thresholds `t`. -/
def record (b : Basis) (t : Thresholds) (c : Context) (modelScores : List Float) (m : PassResult) :
    DecisionRecord :=
  let found := b.findings c.transaction
  let e : Evidence := .gather c [m.totalScore, found.score] modelScores
  { requestId := c.transaction.requestId
    decision := t.decide e.riskScore
    riskScore := e.riskScore
    reasons := e.reasons
    triggeredRules := m.triggeredRules
    blacklistHits := found.against.length
    whitelistHits := found.inFavour.length
    modelVersion := b.modelVersion
    rulesVersion := m.rulesVersion }

/-- The result for a transaction when nothing is remembered of others. -/
def result (b : Basis) (now : Calendar.Timestamp) (c : Context) (modelScores : List Float) : Result :=
  match c.transaction.validate now with
  | .error v => .invalid v
  | .ok () =>
    match Rules.pass b.published c with
    | none => .crashed
    | some m => .decided (b.record b.published.ruleset.thresholds c modelScores m)

variable {b : Basis} {now : Calendar.Timestamp} {c : Context} {modelScores : List Float}

theorem result_of_invalid {v : Payment.Violation} (hv : c.transaction.validate now = .error v) :
    b.result now c modelScores = .invalid v := by
  simp only [result, hv]

theorem result_of_crash (hv : c.transaction.validate now = .ok ()) (hp : Rules.pass b.published c = none) :
    b.result now c modelScores = .crashed := by
  simp only [result, hv, hp]

theorem result_of_pass {m : PassResult} (hv : c.transaction.validate now = .ok ())
    (hp : Rules.pass b.published c = some m) :
    b.result now c modelScores = .decided (b.record b.published.ruleset.thresholds c modelScores m) := by
  simp only [result, hv, hp]

theorem result_eq_crashed_iff :
    b.result now c modelScores = .crashed ↔
      c.transaction.validate now = .ok () ∧ Rules.pass b.published c = none := by
  unfold result
  cases c.transaction.validate now with
  | error v => simp
  | ok u => cases Rules.pass b.published c <;> simp

end Basis

namespace Scorer

variable {s : Scorer} {now : Calendar.Timestamp} {c : Context} {modelScores : List Float} {times : Times}

def basis (s : Scorer) : Basis :=
  { published := s.rules.book.store.current
    database := if s.screener.isCompiled then some s.screener.scanner.database else none
    modelVersion := s.modelVersion }

/-! ## One call -/

/-- The scorer after its rules were evaluated. -/
def evaluated (s : Scorer) (c : Context) (times : Times) : Scorer :=
  { s with rules := (s.rules.evaluate engine 0 c times).1 }

/-- The scorer after its patterns were looked for. -/
def screened (s : Scorer) (tx : Payment.Transaction) : Scorer :=
  { s with screener := (s.screener.screen tx).1 }

theorem screen_eq (s : Scorer) (tx : Payment.Transaction) :
    (s.screener.screen tx).2 = s.basis.findings tx := by
  have hfind : s.screener.screen tx = s.screener.find (.transaction tx) := rfl
  rw [hfind]
  cases h : s.screener.isCompiled with
  | true => simp [Screening.Screener.find_of_compiled h, basis, Basis.findings, h]
  | false => simp [Screening.Screener.find_of_not_compiled h, basis, Basis.findings, h]

/-- What was found out about a transaction whose rules gave `m`. -/
def assessment (s : Scorer) (c : Context) (modelScores : List Float) (m : PassResult) : Assessment :=
  let found := s.basis.findings c.transaction
  ⟨m, found, .gather c [m.totalScore, found.score] modelScores⟩

/-- The scorer after all that was counted of its assessment. -/
def assessed (s : Scorer) (c : Context) (times : Times) (m : PassResult) : Scorer :=
  let found := s.basis.findings c.transaction
  ((s.evaluated c times).screened c.transaction).count fun k =>
    (k.countPass m.evaluated m.triggered m.failed).countScan found.against.length found.inFavour.length

/-- Counting twice is counting once. -/
theorem count_count (s : Scorer) (f g : Metrics → Metrics) : (s.count f).count g = s.count fun k => g (f k) := rfl

theorem assess_of_evaluate {m : PassResult} (he : (s.rules.evaluate engine 0 c times).2 = some m)
    (modelScores : List Float) :
    s.assess c modelScores times = (s.assessed c times m, some (s.assessment c modelScores m)) := by
  simp only [assess, he, assessed, assessment, ← screen_eq]
  rfl

/-- An assessment leaves the rule set in force. -/
theorem current_assessed (s : Scorer) (c : Context) (times : Times) (m : PassResult) :
    (s.assessed c times m).rules.book.store.current = s.rules.book.store.current :=
  s.rules.current_evaluate engine 0 c times

/-- The decision is made under the thresholds in force, and everything else is that of the assessment. -/
theorem conclude_assessment {t : Scorer} (ht : t.modelVersion = s.modelVersion) (c : Context)
    (modelScores : List Float) (m : PassResult) :
    t.conclude c.transaction (s.assessment c modelScores m) =
      let r := s.basis.record t.rules.book.store.current.ruleset.thresholds c modelScores m
      (t.count (·.countDecision r.decision), r) := by
  simp only [conclude, ht]
  rfl

/-- The record that a scorer makes of a transaction under its own thresholds. -/
def recordOf (s : Scorer) (c : Context) (modelScores : List Float) (m : PassResult) : DecisionRecord :=
  s.basis.record s.rules.book.store.current.ruleset.thresholds c modelScores m

/-- What a call can do: what becomes of the scorer, and the result. -/
inductive Scores (s : Scorer) (now : Calendar.Timestamp) (c : Context) (modelScores : List Float) (times : Times) :
    Scorer → Result → Prop where
  | invalid {v : Payment.Violation} (hv : c.transaction.validate now = .error v) :
    Scores s now c modelScores times s (.invalid v)
  | crashed (hv : c.transaction.validate now = .ok ()) (he : (s.rules.evaluate engine 0 c times).2 = none) :
    Scores s now c modelScores times ((s.evaluated c times).count .countTiming) .crashed
  | decided {m : PassResult} (hv : c.transaction.validate now = .ok ())
    (he : (s.rules.evaluate engine 0 c times).2 = some m) :
    Scores s now c modelScores times
      (((s.evaluated c times).screened c.transaction).count (·.countRecord m (s.recordOf c modelScores m)))
      (.decided (s.recordOf c modelScores m))

theorem scores_score (s : Scorer) (now : Calendar.Timestamp) (c : Context) (modelScores : List Float)
    (times : Times) :
    s.Scores now c modelScores times (s.score now c modelScores times).1 (s.score now c modelScores times).2 := by
  cases hv : c.transaction.validate now with
  | error v =>
    have h : s.score now c modelScores times = (s, .invalid v) := by simp [score, hv]
    rw [h]
    exact .invalid hv
  | ok u =>
    cases he : (s.rules.evaluate engine 0 c times).2 with
    | none =>
      have h : s.score now c modelScores times = ((s.evaluated c times).count .countTiming, .crashed) := by
        simp [score, assess, evaluated, hv, he]
      rw [h]
      exact .crashed hv he
    | some m =>
      have hrecord := conclude_assessment (s := s) (t := s.assessed c times m) rfl c modelScores m
      rw [s.current_assessed c times m] at hrecord
      have h : s.score now c modelScores times =
          (((s.evaluated c times).screened c.transaction).count (·.countRecord m (s.recordOf c modelScores m)),
            .decided (s.recordOf c modelScores m)) := by
        simp only [score, hv, assess_of_evaluate he modelScores, hrecord]
        simp only [assessed, count_count, recordOf]
        rfl
      rw [h]
      exact .decided hv he

/-! ## The result is that of the basis -/

theorem coherent_count (h : s.rules.Coherent) (f : Metrics → Metrics) : (s.count f).rules.Coherent :=
  h.restrict rfl rfl fun _ _ hm => hm

theorem Scores.coherent {t : Scorer} {r : Result} (h : s.rules.Coherent)
    (hs : s.Scores now c modelScores times t r) : t.rules.Coherent := by
  have he : (s.rules.evaluate engine 0 c times).1.Coherent := (h.evaluate engine 0 c times).1
  cases hs with
  | invalid => exact h
  | crashed => exact coherent_count (s := s.evaluated c times) he _
  | decided => exact coherent_count (s := (s.evaluated c times).screened c.transaction) he _

/-- Screening counts its scans and changes nothing else. -/
theorem screen_fst (s : Scorer) (tx : Payment.Transaction) :
    ∃ scans, (s.screener.screen tx).1 = { s.screener with scanner := { s.screener.scanner with scans } } := by
  have hfind : s.screener.screen tx = s.screener.find (.transaction tx) := rfl
  rw [hfind]
  cases h : s.screener.isCompiled with
  | true => exact ⟨_, congrArg Prod.fst (Screening.Screener.find_of_compiled h _)⟩
  | false => exact ⟨s.screener.scanner.scans, congrArg Prod.fst (Screening.Screener.find_of_not_compiled h _)⟩

/-- A call leaves what results rest on. -/
theorem Scores.basis {t : Scorer} {r : Result} (hs : s.Scores now c modelScores times t r) :
    t.basis = s.basis := by
  have hcurrent := s.rules.current_evaluate engine 0 c times
  obtain ⟨scans, hscreen⟩ := s.screen_fst c.transaction
  cases hs with
  | invalid => rfl
  | crashed =>
    simp only [Scorer.basis, count, evaluated, hcurrent]
    rfl
  | decided =>
    simp only [Scorer.basis, count, evaluated, screened, hcurrent, hscreen]

/-- Statistics can take up the times that the rules take for a transaction. -/
def Fits (s : Scorer) (c : Context) (times : Times) : Prop :=
  s.rules.book.store.overruns s.rules.book.store.current c times = false

theorem fits_zero (s : Scorer) (c : Context) : s.Fits c .zero := Rules.Store.overruns_zero ..

/-- **Nothing else has a say.** The result is that of the basis, whatever the caches hold. -/
theorem Scores.result_eq {t : Scorer} {r : Result} (h : s.rules.Coherent) (hfits : s.Fits c times)
    (hs : s.Scores now c modelScores times t r) : r = s.basis.result now c modelScores := by
  have hpass : (s.rules.evaluate engine 0 c times).2 = Rules.pass s.basis.published c := by
    rw [(h.evaluate engine 0 c times).2, if_neg (Bool.eq_false_iff.1 hfits)]
    rfl
  cases hs with
  | invalid hv => rw [Basis.result_of_invalid hv]
  | crashed hv he => rw [Basis.result_of_crash hv (hpass ▸ he)]
  | decided hv he =>
    rw [Basis.result_of_pass hv (hpass ▸ he)]
    rfl

theorem score_eq_result (h : s.rules.Coherent) (hfits : s.Fits c times) (now : Calendar.Timestamp)
    (modelScores : List Float) : (s.score now c modelScores times).2 = s.basis.result now c modelScores :=
  (s.scores_score now c modelScores times).result_eq h hfits

theorem basis_score (s : Scorer) (now : Calendar.Timestamp) (c : Context) (modelScores : List Float)
    (times : Times) : (s.score now c modelScores times).1.basis = s.basis :=
  (s.scores_score now c modelScores times).basis

/-! ## Scorers in use -/

/-- What can happen to a scorer. -/
inductive Step where
  | score (now : Calendar.Timestamp) (c : Context) (modelScores : List Float) (times : Times)
  | rules (a : Rules.Session.Action)
  | patterns (op : Screening.Operation)

/-- The scorer after a step, and the result if a transaction was scored. -/
def step (s : Scorer) : Step → Scorer × Option Result
  | .score now c modelScores times =>
    ((s.score now c modelScores times).1, some (s.score now c modelScores times).2)
  | .rules a => ({ s with rules := s.rules.step a }, none)
  | .patterns op => ({ s with screener := (s.screener.step op).1 }, none)

/-- A scorer after steps one after another. -/
def run (s : Scorer) (as : List Step) : Scorer := as.foldl (fun s a => (s.step a).1) s

/-- The results of the transactions that are scored in steps, in order. -/
def results (s : Scorer) : List Step → List Result
  | [] => []
  | a :: as => (s.step a).2.toList ++ (s.step a).1.results as

theorem step_score (s : Scorer) (now : Calendar.Timestamp) (c : Context) (modelScores : List Float) (times : Times) :
    s.step (.score now c modelScores times) =
      ((s.score now c modelScores times).1, some (s.score now c modelScores times).2) := rfl

theorem coherent_step (h : s.rules.Coherent) (a : Step) : (s.step a).1.rules.Coherent := by
  cases a with
  | score now c modelScores times =>
    have hs := (s.scores_score now c modelScores times).coherent h
    simpa only [step_score] using hs
  | rules a => exact h.step a
  | patterns op => exact h

theorem coherent_run (as : List Step) : ∀ {s : Scorer}, s.rules.Coherent → (s.run as).rules.Coherent := by
  induction as with
  | nil => exact fun h => h
  | cons a as ih => exact fun h => ih (coherent_step h a)

end Scorer

end Scoring

end FraudScreen
