import FraudScreen.Proofs.Expr.Crash
import FraudScreen.Proofs.Rules.Trials

/-!
# Evaluations that give no answer

A rule that goes wrong is counted as failed, and the pass goes on with the next one. Only a rule that cuts a text
inside a character takes the whole pass with it, or one whose time statistics cannot take up: then there is no answer,
and the results of the other rules are lost (`Session.evaluate_eq_none_iff`). In all other cases an evaluation reports
on every enabled rule.
-/
namespace FraudScreen.Rules

/-- The rule compiles to a tree that cuts a text inside a character. -/
def Rule.Cuts (b : Expr.Bindings) (r : Rule) : Prop := ∃ n, Expr.compile r.expression = .ok n ∧ n.Cuts b

theorem Outcome.isCrash_ofNode (b : Expr.Bindings) (n : Expr.Node) :
    (ofNode b n).isCrash = true ↔ n.eval b = .error .crash := by
  unfold ofNode
  cases n.eval b with
  | ok v => cases v <;> exact ⟨nofun, nofun⟩
  | error e => cases e <;> simp [isCrash]

theorem Rule.isCrash_outcome (b : Expr.Bindings) (r : Rule) : (r.outcome b).isCrash = true ↔ r.Cuts b := by
  unfold outcome Cuts
  cases Expr.compile r.expression with
  | error e => exact ⟨nofun, nofun⟩
  | ok n => simp [Outcome.isCrash_ofNode, Expr.Node.eval_eq_crash_iff]

/-- A pass crashes if one of its rules makes a cut. -/
theorem any_isCrash_outcomes (rs : Ruleset) (ctx : Context) :
    (outcomes rs ctx).any (·.2.isCrash) = true ↔ ∃ r ∈ rs.enabledRules, r.Cuts ctx.values := by
  simp [outcomes, ctx.bind_eq_values (.inl rfl), Rule.isCrash_outcome]

/-- A pass that is made has no result if one of its rules makes a cut. -/
theorem pass_eq_none_iff {p : Published} {ctx : Context} :
    pass p ctx = none ↔ p.admits ctx = true ∧ ∃ r ∈ p.ruleset.enabledRules, r.Cuts ctx.values := by
  rw [← any_isCrash_outcomes]
  unfold pass
  dsimp only
  split
  · rename_i ha
    split
    · rename_i hc
      exact ⟨fun _ => ⟨ha, hc⟩, fun _ => rfl⟩
    · rename_i hc
      exact ⟨nofun, fun h => absurd h.2 hc⟩
  · rename_i ha
    exact ⟨nofun, fun h => absurd h.1 ha⟩

/-- The rules without a value are those that failed. -/
theorem PassResult.Accounts.failed_eq {m : PassResult} {rules : List Rule} {b : Expr.Bindings}
    (h : m.Accounts rules b) : m.failed = rules.countP fun r => (r.value? b).isNone := by
  have hvalues : m.evaluated = rules.countP fun r => (r.value? b).isSome := by
    rw [h.evaluated, h.results, resultsOf, List.length_filterMap_eq_countP]
    simp
  have hall := List.length_eq_countP_add_countP (fun r : Rule => (r.value? b).isSome) (l := rules)
  have hnone : (rules.countP fun r => (r.value? b).isNone) =
      rules.countP fun r => decide ¬ (r.value? b).isSome = true :=
    List.countP_congr fun r _ => by cases r.value? b <;> simp
  have hcount := h.failed
  omega

theorem PassResult.rulesVersion_add (p : PassResult) (r : Rule) (o : Outcome) :
    (p.add r o).rulesVersion = p.rulesVersion := by
  unfold add
  split <;> rfl

theorem PassResult.rulesVersion_ofOutcomes (version : String) (os : List (Rule × Outcome)) :
    (ofOutcomes version os).rulesVersion = version := by
  suffices h : ∀ p : PassResult, (os.foldl (fun p q => p.add q.1 q.2) p).rulesVersion = p.rulesVersion from h _
  induction os with
  | nil => exact fun _ => rfl
  | cons x os ih => exact fun p => (ih _).trans (p.rulesVersion_add ..)

/-- A document without thresholds, whose rules bear different names and stand in order of their weights. -/
theorem Ruleset.ofDocument_of_sorted {d : Document} (ht : d.thresholds = none)
    (hfirst : selectRules [] d.rules = d.rules.filterMap Entry.rule?)
    (hsorted : (d.rules.filterMap Entry.rule?).Pairwise fun a b => orderKey b.weight ≤ orderKey a.weight) :
    ofDocument d = .ok ⟨d.version.getD standardVersion, d.rules.filterMap Entry.rule?, .standard⟩ := by
  have hstandard : ¬ (70 : Float) < 30 := by decide
  have hrules : heaviestFirst (d.rules.filterMap Entry.rule?) = d.rules.filterMap Entry.rule? :=
    List.mergeSort_of_pairwise (by simpa using hsorted)
  simp [ofDocument, ht, Thresholds.ofEntry, Thresholds.standard, hstandard, hfirst, hrules]

namespace Session

/-- An evaluation in which a rule makes a cut counts nothing. -/
theorem book_evaluate_of_cuts {s : Session} (h : s.Coherent) {ctx : Context}
    (hcut : ∃ r ∈ s.book.store.current.ruleset.enabledRules, r.Cuts ctx.values) (engine worker : Nat) (times : Times) :
    (s.evaluate engine worker ctx times).1.book = s.book := by
  cases ha : s.book.store.current.admits ctx with
  | true =>
    rw [h.evaluate_of_admits ha, Store.finishPass, if_pos ((any_isCrash_outcomes ..).2 hcut)]
  | false => simp [evaluate, ha]

/-- **No answer.** After any actions whatever, an evaluation gives no answer if and only if a pass is made and an
enabled rule comes to a cut inside a character, or the statistics of some rule cannot take up its time. In the first
case nothing is counted. All other passes report on every enabled rule: the rules without a value are counted as
failed, and the others have their results. -/
theorem evaluate_eq_none_iff (o : Origin) (as : List Action) (engine worker : Nat) (ctx : Context) (times : Times) :
    let s := (start o).run as
    let p := s.book.store.current
    let after := s.evaluate engine worker ctx times
    (after.2 = none ↔
      (p.admits ctx = true ∧ ∃ r ∈ p.ruleset.enabledRules, r.Cuts ctx.values) ∨
        s.book.store.overruns p ctx times = true) ∧
      ((∃ r ∈ p.ruleset.enabledRules, r.Cuts ctx.values) → after.1.book = s.book) ∧
      ∀ m, after.2 = some m →
        if p.admits ctx then
          m.rulesVersion = p.ruleset.version ∧ m.Accounts p.ruleset.enabledRules ctx.values ∧
            m.failed = p.ruleset.enabledRules.countP fun r => (r.value? ctx.values).isNone
        else m = .empty := by
  intro s p after
  have hc : s.Coherent := (coherent_start o).run as
  have hpass : after.2 = if s.book.store.overruns p ctx times then none else pass p ctx :=
    (hc.evaluate engine worker ctx times).2
  refine ⟨?_, fun hcut => book_evaluate_of_cuts hc hcut engine worker times, fun m hm => ?_⟩
  · rw [hpass, ← pass_eq_none_iff]
    cases s.book.store.overruns p ctx times <;> simp
  obtain ⟨-, hm⟩ := hc.evaluate_eq_some_iff.1 hm
  split
  · rename_i ha
    obtain ⟨-, rfl⟩ := (pass_eq_some_iff ha).1 hm
    have haccounts := accounts_ofOutcomes hc.numbered.ids ctx
    exact ⟨PassResult.rulesVersion_ofOutcomes .., haccounts, haccounts.failed_eq⟩
  · rename_i ha
    rw [pass, if_neg ha] at hm
    exact (Option.some.inj hm).symm

/-- Of two rules the first asks for the first two bytes of a name whose second character takes two. There is no
answer, although the second rule has a value and the pass would report it. -/
theorem evaluate_crashes_cut :
    let entry (id expression : String) : Entry := ⟨some id, none, some expression, none, none, none⟩
    let d : Document := ⟨some "7", none,
      [entry "begins" "str::substring(merchant_id, 0x0, 0x2) == \"ZZ\"", entry "large" "amount > 1000"]⟩
    let ctx : Context := .ofTransaction
      { requestId := "r", timestamp := ⟨0, 0⟩, purchase := ⟨5000, "CHF", "Zürich", 5411, "chip"⟩,
        card := ⟨"t", "CH", "visa"⟩, device := ⟨"10.0.0.1", "f", "u"⟩, customer := ⟨"c", 0.25, 400⟩ }
    let s := (start (.memory d)).run [.reload]
    s.book.store.current = ⟨⟨"7", d.rules.filterMap Entry.rule?, .standard⟩, 1⟩ ∧ ctx.isValid = true ∧
      (s.evaluate 0 0 ctx .zero).2 = none ∧
      (d.rules.filterMap Entry.rule?).map (fun r => (r.id, r.value? ctx.values)) =
        [("begins", none), ("large", some 1)] := by
  intro entry d ctx s
  have hd : Ruleset.ofDocument d = .ok ⟨"7", d.rules.filterMap Entry.rule?, .standard⟩ :=
    Ruleset.ofDocument_of_sorted rfl rfl (by decide +kernel)
  have hcurrent : s.book.store.current = ⟨⟨"7", d.rules.filterMap Entry.rule?, .standard⟩, 1⟩ :=
    Rulebook.current_reload hd
  have hc : s.Coherent := (coherent_start _).run _
  have hcrash : (outcomes ⟨"7", d.rules.filterMap Entry.rule?, .standard⟩ ctx).any (·.2.isCrash) = true := by
    decide +kernel
  refine ⟨hcurrent, by decide +kernel, ?_, by decide +kernel⟩
  rw [(hc.evaluate 0 0 ctx .zero).2, Store.overruns_zero, hcurrent]
  exact pass_eq_none_iff.2 ⟨by decide +kernel, (any_isCrash_outcomes ..).1 hcrash⟩

end Session

end FraudScreen.Rules
