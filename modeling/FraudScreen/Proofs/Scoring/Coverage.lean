import FraudScreen.Proofs.Payment.Acceptance
import FraudScreen.Proofs.Rules.Trials
import FraudScreen.Proofs.Scoring.Basis

/-!
# Nothing is left out

Rules are skipped for contexts that lack something, and patterns are not looked for in fields that are empty. A
transaction that is accepted lacks nothing (`isValid_of_withinLimits`) and has no empty field
(`screenedTexts_of_withinLimits`), so that every enabled rule is tried and every field is searched
(`score_covers`).
-/
namespace FraudScreen

open Payment (Transaction)
open Rules (Context PassResult Published Session Times)
open Screening (screenedFields screenedTexts)

section

variable {now : Calendar.Timestamp}

/-- Rules have what they need of an accepted transaction. -/
theorem Rules.Context.isValid_of_withinLimits {c : Context} (h : c.transaction.WithinLimits now) :
    c.isValid = true := by
  have hamount : 0 < c.transaction.purchase.amount := Payment.pos_of_leastAmount_le h.amount.1
  simp [isValid, h.customerId.1, h.merchantId.1, h.currency.1, hamount]

theorem Screening.ne_empty_of_withinLimits {tx : Transaction} (h : tx.WithinLimits now) :
    ∀ f ∈ screenedFields tx, f.2 ≠ "" := by
  have hip : tx.device.ip ≠ "" := by
    intro e
    have haddress := h.ip
    rw [e, Payment.isAddress_empty] at haddress
    cases haddress
  simp only [screenedFields, List.forall_mem_cons]
  exact ⟨hip, h.fingerprint.1, h.userAgent.1, h.merchantId.1, h.token.1, h.issuerCountry.1, h.brand.1,
    h.customerId.1, h.currency.1, h.posEntryMode.1, nofun⟩

/-- Patterns are looked for in all fields of an accepted transaction. -/
theorem Screening.screenedTexts_of_withinLimits {tx : Transaction} (h : tx.WithinLimits now) :
    screenedTexts tx = (screenedFields tx).map (·.2) := by
  refine List.filter_eq_self.2 fun text htext => ?_
  obtain ⟨f, hf, rfl⟩ := List.mem_map.1 htext
  simpa using ne_empty_of_withinLimits h f hf

end

/-- A pass that is made and ends tries every enabled rule once. -/
theorem Rules.Session.evaluations_evaluate {s : Session} (h : s.Coherent) {engine worker : Nat} {c : Context}
    {times : Times} {m : PassResult} (ha : s.book.store.current.admits c = true)
    (he : (s.evaluate engine worker c times).2 = some m) (id : String) :
    ((s.evaluate engine worker c times).1.book.store.telemetry.stats id).evaluations =
      (s.book.store.telemetry.stats id).evaluations +
        if s.book.store.current.ruleset.enabledRules.any (·.id = id) then 1 else 0 := by
  obtain ⟨hcounted, hpass⟩ := h.evaluate_eq_some_iff.1 he
  have hfits : s.book.store.telemetry.fitsAll
      (Rules.attemptsOf times (Rules.outcomes s.book.store.current.ruleset c)) = true := by
    simpa [Rules.Store.overruns, ha] using hcounted
  have hcount := (Rules.Event.countP_attempts (e := .pass s.book.store.current.ruleset c times)
    (fun r ctx times e => by cases e; exact h.numbered.ids) id).1
  have htelemetry := s.telemetry_evaluate h engine worker c times
  simp only [ha, hpass, Option.isSome_some, and_self, if_true] at htelemetry
  rw [htelemetry, (Rules.Telemetry.stats_recordAll _ hfits id).1]
  simp only [Rules.Event.attempts] at hcount
  rw [hcount, List.countP_singleton, Rules.Event.tries]
  split <;> rfl

namespace Scoring.Scorer

/-- A call with the record `r`, by which `s` became `t`, has left nothing out. -/
structure Covers (s t : Scorer) (c : Context) (r : Payment.DecisionRecord) : Prop where
  /-- The rules were not skipped. -/
  admitted : s.rules.book.store.current.admits c = true
  rulesVersion : r.rulesVersion = s.rules.book.store.current.ruleset.version
  current : t.rules.book.store.current = s.rules.book.store.current
  /-- Every enabled rule was tried once, and no other rule. -/
  evaluations : ∀ id, (t.rules.book.store.telemetry.stats id).evaluations =
    (s.rules.book.store.telemetry.stats id).evaluations +
      if s.rules.book.store.current.ruleset.enabledRules.any (·.id = id) then 1 else 0
  /-- No field is empty, and patterns were looked for in each of them. -/
  fields : ∀ f ∈ screenedFields c.transaction, f.2 ≠ ""
  scans : t.screener.scanner.scans = s.screener.scanner.scans + 10
  hits :
    let found := s.screener.scanner.database.scanAll ((screenedFields c.transaction).map (·.2)) none
    r.blacklistHits = found.against.length ∧ r.whitelistHits = found.inFavour.length

variable {s : Scorer} {now : Calendar.Timestamp} {c : Context} {modelScores : List Float} {times : Times}

/-- All ten texts of an accepted transaction are scanned. -/
theorem screen_of_withinLimits (hw : c.transaction.WithinLimits now) (hcompiled : s.screener.isCompiled = true) :
    s.screener.screen c.transaction =
      ({ s.screener with scanner := { s.screener.scanner with scans := s.screener.scanner.scans + 10 } },
        { s.screener.scanner.database.scanAll ((screenedFields c.transaction).map (·.2)) none with
          textsProcessed := 10 }) := by
  have hfind : s.screener.screen c.transaction = s.screener.find (.transaction c.transaction) := rfl
  have htexts := Screening.screenedTexts_of_withinLimits hw
  rw [hfind, Screening.Screener.find_of_compiled hcompiled]
  simp only [Screening.Query.texts, Screening.Database.find, htexts]
  rfl

theorem covers_of_evaluate (h : s.rules.Coherent) (hw : c.transaction.WithinLimits now)
    (hloaded : s.rules.book.store.isInitialized = true) (hcompiled : s.screener.isCompiled = true)
    {m : PassResult} (he : (s.rules.evaluate engine 0 c times).2 = some m) (f : Metrics → Metrics) :
    s.Covers (((s.evaluated c times).screened c.transaction).count f) c (s.recordOf c modelScores m) := by
  have ha : s.rules.book.store.current.admits c = true := by
    simp only [Published.admits, Rules.Context.isValid_of_withinLimits hw, Bool.and_true]
    exact hloaded
  have hversion : m.rulesVersion = s.rules.book.store.current.ruleset.version := by
    obtain ⟨-, hpass⟩ := h.evaluate_eq_some_iff.1 he
    simpa only [ha, if_true] using Rules.rulesVersion_of_pass hpass
  have hscreen := screen_of_withinLimits hw hcompiled
  have hfound := s.screen_eq c.transaction
  rw [hscreen] at hfound
  have hagainst := congrArg (·.against.length) hfound
  have hinFavour := congrArg (·.inFavour.length) hfound
  refine ⟨ha, hversion, s.rules.current_evaluate engine 0 c times, Session.evaluations_evaluate h ha he,
    Screening.ne_empty_of_withinLimits hw, ?_, hagainst.symm, hinFavour.symm⟩
  exact congrArg (·.1.scanner.scans) hscreen

/-- Of what a call can do with an accepted transaction, only a crash leaves something out. -/
theorem Scores.covers {t : Scorer} {result : Result} (hs : s.Scores now c modelScores times t result)
    (h : s.rules.Coherent) (hv : c.transaction.validate now = .ok ())
    (hloaded : s.rules.book.store.isInitialized = true) (hcompiled : s.screener.isCompiled = true)
    (hreturns : result ≠ .crashed) : ∃ r, result = .decided r ∧ s.Covers t c r := by
  cases hs with
  | invalid hno =>
    rw [hv] at hno
    cases hno
  | crashed => exact absurd rfl hreturns
  | decided _ he =>
    have hw := Transaction.validate_eq_ok_iff.1 hv
    exact ⟨_, rfl, covers_of_evaluate h hw hloaded hcompiled he _⟩

/-- **Full coverage.** A scorer with rules and compiled patterns leaves nothing of an accepted transaction out: if
the call returns, then with a record for which every enabled rule of the rule set in force was tried once and
patterns were looked for in all ten fields. -/
theorem score_covers (o : Rules.Origin) (r : Screening.Request) (steps : List Step) (now : Calendar.Timestamp)
    (c : Context) (modelScores : List Float) (times : Times) (hv : c.transaction.validate now = .ok ())
    (hloaded : ((start o r).run steps).rules.book.store.isInitialized = true)
    (hcompiled : ((start o r).run steps).screener.isCompiled = true)
    (hreturns : (((start o r).run steps).score now c modelScores times).2 ≠ .crashed) :
    let s := (start o r).run steps
    ∃ rec, (s.score now c modelScores times).2 = .decided rec ∧
      s.Covers (s.score now c modelScores times).1 c rec := by
  intro s
  have hc : s.rules.Coherent := coherent_run steps (Session.coherent_start o)
  exact (s.scores_score now c modelScores times).covers hc hv hloaded hcompiled hreturns

/-- One rule, one pattern, and a transaction that is accepted. -/
theorem score_covers_ordinary :
    let d : Rules.Document := ⟨some "1", none, [⟨some "large", none, some "amount > 1000", some 150, none, none⟩]⟩
    let c : Context := .ofTransaction .ordinary
    let s := (start (.memory d) .auto).run
      [.rules .reload, .patterns (.add (.exact 1 "10.0.0.1" "blacklist")), .patterns (.compile .boundless)]
    ∃ rec, (s.score c.transaction.timestamp c [] .zero).2 = .decided rec ∧
      s.Covers (s.score c.transaction.timestamp c [] .zero).1 c rec ∧ rec.rulesVersion = "1" ∧
        rec.blacklistHits = 1 := by
  intro d c s
  let rs : Rules.Ruleset := ⟨"1", d.rules.filterMap Rules.Entry.rule?, .standard⟩
  have hd : Rules.Ruleset.ofDocument d = .ok rs := Rules.Ruleset.ofDocument_of_sorted rfl rfl (by decide +kernel)
  have hp : s.rules.book.store.current = ⟨rs, 1⟩ := Rules.Rulebook.current_reload hd
  have hv : c.transaction.validate c.transaction.timestamp = .ok () := Transaction.validate_ordinary
  have hloaded : s.rules.book.store.isInitialized = true := by rw [Rules.Store.isInitialized, hp]; rfl
  have hreturns : (s.score c.transaction.timestamp c [] .zero).2 ≠ .crashed := by
    have hno : (Rules.outcomes rs c).any (·.2.isCrash) = false := by decide +kernel
    have hpass : Rules.pass s.basis.published c = some (.ofOutcomes "1" (Rules.outcomes rs c)) := by
      rw [basis, hp]
      exact (Rules.pass_eq_some_iff (by decide +kernel)).2 ⟨hno, rfl⟩
    have hc : s.rules.Coherent := coherent_run _ (Session.coherent_start _)
    rw [score_eq_result hc (s.fits_zero c), ne_eq, Basis.result_eq_crashed_iff, hpass]
    simp
  obtain ⟨rec, hrec, hcovers⟩ := score_covers (.memory d) .auto _ _ c [] .zero hv hloaded rfl hreturns
  refine ⟨rec, hrec, hcovers, ?_, ?_⟩
  · rw [hcovers.rulesVersion, hp]
  · rw [hcovers.hits.1]
    decide +kernel

end Scoring.Scorer

end FraudScreen
