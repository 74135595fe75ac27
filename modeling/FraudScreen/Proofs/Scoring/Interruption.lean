import FraudScreen.Proofs.Payment.Acceptance
import FraudScreen.Proofs.Scoring.Basis

/-!
# Loads in the middle of a score

A call looks at the rules twice, first to evaluate them and then to decide. Loads that end in between change what
the decision is made under, and nothing else of the record: its version is that of the rules that were evaluated
(`scoreAround_eq`). A record is thus not always that of one rule set (`scoreAround_declines_reviewable`).
-/
namespace FraudScreen

open Rules (Context PassResult Published Session Thresholds Times published)

/-- A load leaves the source. -/
theorem Rules.Rulebook.source_reload (b : Rules.Rulebook) : b.reload.1.source = b.source := by
  have hl := b.loads_reload
  generalize b.reload = x at hl ⊢
  obtain ⟨b', result⟩ := x
  cases hl with
  | replaced => rfl
  | blamed => rfl

namespace Rules.Session

theorem source_evaluate (s : Session) (engine worker : Nat) (ctx : Context) (times : Times) :
    (s.evaluate engine worker ctx times).1.book.source = s.book.source := by
  obtain ⟨t, h⟩ := s.book_evaluate engine worker ctx times
  rw [h]

/-- In force is what was put in force last. -/
theorem current_run (as : List Action) : ∀ s : Session,
    (s.run as).book.store.current = (published (s.loads as)).getLast?.getD s.book.store.current := by
  induction as with
  | nil => exact fun s => rfl
  | cons a as ih =>
    intro s
    rw [run_cons, ih, loads]
    have hm := s.moves_step a
    cases hq : s.load? a with
    | none =>
      rw [hq] at hm
      rw [hm.sameLoads.store]
      rfl
    | some result =>
      rw [hq] at hm
      obtain ⟨b, hl, hstore, -⟩ := hm.loads
      rw [hstore]
      cases hl with
      | @replaced r hr =>
        simp only [Option.toList, List.singleton_append, published, List.filterMap_cons, Except.toOption,
          List.getLast?_cons, Option.getD_some]
        rfl
      | blamed he => rfl

/-- Another document of a source in memory is put in force by the next load. -/
theorem current_replace_reload {s : Session} {old d : Rules.Document} {rs : Rules.Ruleset}
    (hmemory : s.book.source.origin = .memory old) (honline : s.book.source.documentOffline = false)
    (h : Rules.Ruleset.ofDocument d = .ok rs) :
    (s.run [.replace d, .reload]).book.store.current.ruleset = rs := by
  have hl : (s.step (.replace d)).book.source.load = .ok rs := by
    simp [step, Rules.Source.replace, Rules.Source.change, Rules.Source.load, Rules.Source.read, hmemory, honline, h]
  have hr := (s.step (.replace d)).book.loads_reload
  change (s.step (.replace d)).book.reload.1.store.current.ruleset = rs
  generalize (s.step (.replace d)).book.reload = x at hr
  obtain ⟨b, result⟩ := x
  cases hr with
  | replaced hr =>
    rw [hl] at hr
    cases hr
    rfl
  | blamed he =>
    rw [hl] at he
    cases he

end Rules.Session

namespace Scoring

/-- The result for a transaction of which only the decision is made under the thresholds `t`. -/
def Result.redecided (t : Thresholds) : Result → Result
  | .decided r => .decided { r with decision := t.decide r.riskScore }
  | .invalid v => .invalid v
  | .crashed => .crashed

theorem Result.redecided_eq_decided_iff {t : Thresholds} {result : Result} {r : Payment.DecisionRecord} :
    result.redecided t = .decided r ↔
      ∃ q, result = .decided q ∧ r = { q with decision := t.decide q.riskScore } := by
  cases result <;> simp [redecided, eq_comm]

theorem Result.redecided_eq_self_iff {t : Thresholds} {result : Result} :
    result.redecided t = result ↔ ∀ r, result = .decided r → t.decide r.riskScore = r.decision := by
  cases result with
  | decided r => cases r; simp [redecided]
  | invalid v => simp [redecided]
  | crashed => simp [redecided]

namespace Scorer

theorem source_assessed (s : Scorer) (c : Context) (times : Times) (m : PassResult) :
    (s.assessed c times m).rules.book.source = s.rules.book.source := s.rules.source_evaluate engine 0 c times

/-- The scorer after actions of its session. -/
def acted (s : Scorer) (as : List Session.Action) : Scorer := { s with rules := s.rules.run as }

/-- Scores a transaction while actions of a session happen between the search for patterns and the decision. -/
def scoreAround (s : Scorer) (now : Calendar.Timestamp) (c : Context) (modelScores : List Float) (times : Times)
    (between : List Session.Action) : Scorer × Result :=
  match c.transaction.validate now with
  | .error v => (s, .invalid v)
  | .ok () =>
    match s.assess c modelScores times with
    | (s, none) => ((s.acted between).count .countTiming, .crashed)
    | (s, some a) =>
      let (s, record) := (s.acted between).conclude c.transaction a
      (s.count .countTiming, .decided record)

variable (s : Scorer) (now : Calendar.Timestamp) (c : Context) (modelScores : List Float) (times : Times)

/-- If nothing happens in between, the transaction is scored. -/
theorem scoreAround_nil : s.scoreAround now c modelScores times [] = s.score now c modelScores times := by
  unfold scoreAround score
  cases c.transaction.validate now with
  | error v => rfl
  | ok =>
    dsimp only
    generalize s.assess c modelScores times = x
    obtain ⟨t, _ | a⟩ := x <;> rfl

/-- The rules that were put in force last in between, or else those before. -/
def lastBetween (between : List Session.Action) : Published :=
  (published ((s.assess c modelScores times).1.rules.loads between)).getLast?.getD s.rules.book.store.current

variable {s now c times}

theorem lastBetween_of_evaluate {m : PassResult} (he : (s.rules.evaluate engine 0 c times).2 = some m)
    (between : List Session.Action) :
    s.lastBetween c modelScores times between = ((s.assessed c times m).rules.run between).book.store.current := by
  rw [Session.current_run, current_assessed, lastBetween, assess_of_evaluate he]

/-- All of a record but the decision was settled before anything happens in between. -/
theorem scoreAround_of_evaluate {m : PassResult} (hv : c.transaction.validate now = .ok ())
    (he : (s.rules.evaluate engine 0 c times).2 = some m) (between : List Session.Action) :
    (s.scoreAround now c modelScores times between).2 =
      .decided (s.basis.record (s.lastBetween c modelScores times between).ruleset.thresholds c modelScores m) := by
  have hrecord := conclude_assessment (s := s) (t := (s.assessed c times m).acted between) rfl c modelScores m
  simp only [scoreAround, hv, lastBetween_of_evaluate modelScores he, assess_of_evaluate he, hrecord]
  rfl

/-- Only the decision is made again. -/
theorem scoreAround_eq_redecided (between : List Session.Action) :
    (s.scoreAround now c modelScores times between).2 =
      (s.score now c modelScores times).2.redecided
        (s.lastBetween c modelScores times between).ruleset.thresholds := by
  have hs := s.scores_score now c modelScores times
  generalize s.score now c modelScores times = x at hs ⊢
  obtain ⟨t, result⟩ := x
  cases hs with
  | invalid hv => simp only [scoreAround, hv, Result.redecided]
  | crashed hv he => simp only [scoreAround, assess, hv, he, Result.redecided]
  | decided hv he => exact scoreAround_of_evaluate modelScores hv he between

/-- A record is that of one rule set if nothing happens in between. -/
theorem decided_score (h : s.rules.Coherent) {r : Payment.DecisionRecord}
    (hr : (s.score now c modelScores times).2 = .decided r) :
    let p := s.rules.book.store.current
    r.decision = p.ruleset.thresholds.decide r.riskScore ∧
      r.rulesVersion = if p.admits c then p.ruleset.version else "" := by
  have hs := s.scores_score now c modelScores times
  generalize s.score now c modelScores times = x at hs hr
  obtain ⟨t, result⟩ := x
  subst hr
  cases hs with
  | decided hv he =>
    exact ⟨rfl, Rules.rulesVersion_of_pass (h.evaluate_eq_some_iff.1 he).2⟩

/-- **Loads in the middle.** After any steps whatever, a transaction is scored as if nothing happened between the
search for patterns and the decision, except that the decision is made under the rules put in force last in
between. The version of the record is that of the rules before. Hence the record is that of one rule set if and
only if the rules put in force in between decide about it as those before. -/
theorem scoreAround_eq (o : Rules.Origin) (r : Screening.Request) (steps : List Step) (now : Calendar.Timestamp)
    (c : Context) (modelScores : List Float) (times : Times) (between : List Session.Action) :
    let s := (start o r).run steps
    let before := s.rules.book.store.current
    let last := s.lastBetween c modelScores times between
    let undisturbed := (s.score now c modelScores times).2
    let result := (s.scoreAround now c modelScores times between).2
    result = undisturbed.redecided last.ruleset.thresholds ∧
      (∀ rec, result = .decided rec →
        rec.decision = last.ruleset.thresholds.decide rec.riskScore ∧
          rec.rulesVersion = if before.admits c then before.ruleset.version else "") ∧
      (result = undisturbed ↔ ∀ rec, undisturbed = .decided rec →
        last.ruleset.thresholds.decide rec.riskScore = before.ruleset.thresholds.decide rec.riskScore) := by
  intro s before last undisturbed result
  have hc : s.rules.Coherent := coherent_run steps (Rules.Session.coherent_start o)
  have hresult : result = undisturbed.redecided last.ruleset.thresholds :=
    scoreAround_eq_redecided modelScores between
  refine ⟨hresult, fun rec hrec => ?_, ?_⟩
  · rw [hresult, Result.redecided_eq_decided_iff] at hrec
    obtain ⟨q, hq, rfl⟩ := hrec
    exact ⟨rfl, (decided_score modelScores hc hq).2⟩
  · rw [hresult, Result.redecided_eq_self_iff]
    refine forall₂_congr fun rec hrec => ?_
    rw [(decided_score modelScores hc hrec).1]

/-- The thresholds are lowered while a transaction is scored. The record names the version before, under which its
score is to be reviewed, and declines. -/
theorem scoreAround_declines_reviewable :
    let entry : Rules.Entry := ⟨some "large", none, some "amount > 1000", some 150, none, none⟩
    let first : Rules.Document := ⟨some "1", none, [entry]⟩
    let second : Rules.Document := ⟨some "2", some ⟨some 10, some 40⟩, []⟩
    let c : Context := .ofTransaction .ordinary
    let s := (start (.memory first) .auto).run [.rules .reload]
    let p := s.rules.book.store.current
    ∃ rec, (s.scoreAround c.transaction.timestamp c [] .zero [.replace second, .reload]).2 = .decided rec ∧
      rec.rulesVersion = "1" ∧ p.ruleset.version = "1" ∧ rec.decision = .decline ∧
      p.ruleset.thresholds.decide rec.riskScore = .review := by
  intro entry first second c s p
  let rs : Rules.Ruleset := ⟨"1", first.rules.filterMap Rules.Entry.rule?, .standard⟩
  have hfirst : Rules.Ruleset.ofDocument first = .ok rs :=
    Rules.Ruleset.ofDocument_of_sorted rfl rfl (by decide +kernel)
  have hsecond : Rules.Ruleset.ofDocument second = .ok ⟨"2", [], ⟨10, 40⟩⟩ := by
    have hordered : ¬ (40 : Float) < 10 := by decide
    simp [second, Rules.Ruleset.ofDocument, Rules.Thresholds.ofEntry, Rules.selectRules, Rules.heaviestFirst,
      hordered]
  have hp : p = ⟨rs, 1⟩ := Rules.Rulebook.current_reload hfirst
  have hc : s.rules.Coherent := coherent_run _ (Rules.Session.coherent_start _)
  have hv : c.transaction.validate c.transaction.timestamp = .ok () := Payment.Transaction.validate_ordinary
  let m := PassResult.ofOutcomes "1" (Rules.outcomes rs c)
  have he : (s.rules.evaluate engine 0 c .zero).2 = some m := by
    have hno : (Rules.outcomes rs c).any (·.2.isCrash) = false := by decide +kernel
    refine hc.evaluate_eq_some_iff.2 ⟨s.fits_zero c, ?_⟩
    change Rules.pass p c = some m
    rw [hp]
    exact (Rules.pass_eq_some_iff (by decide +kernel)).2 ⟨hno, rfl⟩
  have hlast : (s.lastBetween c [] .zero [.replace second, .reload]).ruleset = ⟨"2", [], ⟨10, 40⟩⟩ := by
    have hsource : (s.assessed c .zero m).rules.book.source = .start (.memory first) := by
      rw [source_assessed]
      exact (Rules.Rulebook.start (.memory first)).source_reload
    rw [lastBetween_of_evaluate [] he]
    exact Session.current_replace_reload (by rw [hsource]; rfl) (by rw [hsource]; rfl) hsecond
  have hresult := scoreAround_of_evaluate [] hv he [.replace second, .reload]
  rw [hlast] at hresult
  rw [hp]
  exact ⟨_, hresult, PassResult.rulesVersion_ofOutcomes "1" _, rfl, by decide +kernel, by decide +kernel⟩

end Scorer

end Scoring

end FraudScreen
