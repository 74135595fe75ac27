import FraudScreen.Proofs.Rules.CacheTransparency
import FraudScreen.Proofs.Rules.LoadHistory

/-!
# The accounts of a pass

A pass counts the outcome of each enabled rule as it goes. `PassResult.Tallies` is the invariant of that loop:
the counts agree with one another and with the outcomes counted so far. So what a pass reports is settled by
the value of each of its rules (`PassResult.Accounts`), and a rule has the result that it would have if no
other rule were in force (`Session.evaluate_accounts`).
-/
namespace FraudScreen.Rules

/-! ## One rule -/

/-- The number that a rule stands for: its expression compiles and has a truth value or a number. -/
def Rule.value? (b : Expr.Bindings) (r : Rule) : Option Float :=
  match Expr.compile r.expression with
  | .error _ => none
  | .ok n =>
    match n.eval b with
    | .ok (.bool c) => some (if c then 1 else 0)
    | .ok (.float x) => some x
    | .ok (.int i) => some (Float.ofInt i.toInt)
    | _ => none

/-- The result of a rule whose value is `x`. -/
def Rule.resultOf (r : Rule) (x : Float) : RuleResult :=
  { ruleId := r.id
    triggered := (0.5 : Float) < x
    score := if (0.5 : Float) < x then r.weight.toFloat else 0
    value := x }

@[simp] theorem Rule.resultOf_ruleId (r : Rule) (x : Float) : (r.resultOf x).ruleId = r.id := rfl

/-- The results of the rules that have a value, in the order of the rules. -/
def resultsOf (rules : List Rule) (b : Expr.Bindings) : List RuleResult :=
  rules.filterMap fun r => (r.value? b).map r.resultOf

theorem Rule.result?_outcome (b : Expr.Bindings) (r : Rule) :
    r.result? (r.outcome b) = (r.value? b).map r.resultOf := by
  have hvalue (x : Float) : r.result? (.value x) = some (r.resultOf x) := by
    by_cases hx : (0.5 : Float) < x <;> simp [result?, resultOf, Outcome.triggers, triggerThreshold, hx]
  unfold outcome value?
  cases Expr.compile r.expression with
  | error e => rfl
  | ok n =>
    simp only [Outcome.ofNode]
    cases n.eval b with
    | error f => cases f <;> rfl
    | ok v =>
      -- texts, tuples and the empty value are no numbers
      cases v with
      | bool | float | int => exact hvalue _
      | text | tuple | empty => rfl

/-! ## The loop -/

namespace PassResult

variable {p : PassResult} {done : List (Rule × Outcome)}

/-- What is counted once the outcomes in `done` are. -/
structure Tallies (p : PassResult) (done : List (Rule × Outcome)) : Prop where
  results : p.results = done.filterMap fun (r, o) => r.result? o
  evaluated : p.evaluated = p.results.length
  counted : p.evaluated + p.failed = done.length
  triggered : p.triggered = p.triggeredRules.length
  /-- The scores are added from left to right, which matters for floating-point numbers. -/
  totalScore : p.totalScore = (p.results.map (·.score)).foldl (· + ·) 0

theorem tallies_empty (version : String) : Tallies { empty with rulesVersion := version } [] :=
  ⟨rfl, rfl, rfl, rfl, rfl⟩

/-- Counting one more outcome keeps the counts in step. -/
theorem Tallies.add (h : p.Tallies done) (r : Rule) (o : Outcome) : (p.add r o).Tallies (done ++ [(r, o)]) := by
  unfold PassResult.add
  cases hr : r.result? o with
  | none =>
    refine ⟨?_, h.evaluated, ?_, h.triggered, h.totalScore⟩
    · simp [hr, h.results]
    · simp only [List.length_append, List.length_singleton, ← h.counted]
      omega
  | some result =>
    refine ⟨?_, ?_, ?_, ?_, ?_⟩
    · simp [hr, h.results]
    · simp [h.evaluated]
    · simp only [List.length_append, List.length_singleton, ← h.counted]
      omega
    · have ht := h.triggered
      unfold triggeredRules at ht ⊢
      cases hc : result.triggered <;> simp [hc, ht]
    · simp [h.totalScore, List.foldl_append]

theorem Tallies.addAll (os : List (Rule × Outcome)) : ∀ {p : PassResult} {done : List (Rule × Outcome)},
    p.Tallies done → (os.foldl (fun p (r, o) => p.add r o) p).Tallies (done ++ os) := by
  induction os with
  | nil =>
    intro p done h
    simpa using h
  | cons x os ih =>
    intro p done h
    obtain ⟨r, o⟩ := x
    simpa using ih (h.add r o)

theorem tallies_ofOutcomes (version : String) (os : List (Rule × Outcome)) : (ofOutcomes version os).Tallies os :=
  Tallies.addAll os (tallies_empty version)

/-! ## A whole pass -/

/-- What a pass over rules reports when the variables have the values in `b`. -/
structure Accounts (m : PassResult) (rules : List Rule) (b : Expr.Bindings) : Prop where
  /-- Exactly the rules with a value have a result, in the order of the rules. -/
  results : m.results = resultsOf rules b
  /-- No rule has more than one result. -/
  once : (m.results.map (·.ruleId)).Nodup
  evaluated : m.evaluated = m.results.length
  failed : m.evaluated + m.failed = rules.length
  triggered : m.triggered = m.triggeredRules.length
  /-- Exactly the rules whose value exceeds one half triggered, in the order of the rules. -/
  triggeredRules : m.triggeredRules = (rules.filter fun r => (r.value? b).any ((0.5 : Float) < ·)).map (·.id)
  totalScore : m.totalScore = (m.results.map (·.score)).foldl (· + ·) 0

end PassResult

theorem filterMap_outcomes (r : Ruleset) (c : Context) :
    ((outcomes r c).filterMap fun (r, o) => r.result? o) = resultsOf r.enabledRules c.values := by
  simp only [outcomes, List.filterMap_map, c.bind_eq_values (.inl rfl)]
  exact List.filterMap_congr fun r _ => r.result?_outcome _

/-- The results with some property belong to the rules whose value gives them this property. -/
theorem map_ruleId_filter_resultsOf (q : RuleResult → Bool) (rules : List Rule) (b : Expr.Bindings) :
    ((resultsOf rules b).filter q).map (·.ruleId) =
      (rules.filter fun r => (r.value? b).any fun x => q (r.resultOf x)).map (·.id) := by
  unfold resultsOf
  induction rules with
  | nil => rfl
  | cons r rest ih =>
    cases h : r.value? b with
    | none => simp [h, ih]
    | some x => cases hq : q (r.resultOf x) <;> simp [h, hq, ih]

/-- **A pass** that ends without a crash accounts for every enabled rule. -/
theorem accounts_ofOutcomes {r : Ruleset} (h : r.IdsUnique) (c : Context) :
    (PassResult.ofOutcomes r.version (outcomes r c)).Accounts r.enabledRules c.values := by
  have ht := PassResult.tallies_ofOutcomes r.version (outcomes r c)
  have hr := ht.results
  rw [filterMap_outcomes] at hr
  refine ⟨hr, ?_, ht.evaluated, ?_, ht.triggered, ?_, ht.totalScore⟩
  · have hall := map_ruleId_filter_resultsOf (fun _ => true) r.enabledRules c.values
    rw [List.filter_true] at hall
    rw [hr, hall]
    exact h.enabledRules.sublist (List.filter_sublist.map _)
  · rw [ht.counted]
    simp [outcomes]
  · rw [PassResult.triggeredRules, hr, map_ruleId_filter_resultsOf]
    rfl

/-! ## A rule by itself -/

/-- The results under the identifier of a rule are those of a pass over this rule alone. -/
theorem PassResult.Accounts.results_of {m : PassResult} {rs : Ruleset} {b : Expr.Bindings}
    (h : m.Accounts rs.enabledRules b) (hu : rs.IdsUnique) {r : Rule} (hr : r ∈ rs.rules) :
    m.results.filter (·.ruleId = r.id) = resultsOf ([r].filter (·.enabled)) b := by
  -- no other rule bears the identifier, and a disabled rule is not evaluated
  have hown : rs.enabledRules.filter (·.id = r.id) = [r].filter (·.enabled) := by
    rw [Ruleset.enabledRules, List.filter_comm, hu.filter_id hr]
  rw [h.results, ← hown, resultsOf, resultsOf, List.filter_filterMap, List.filterMap_filter]
  refine List.filterMap_congr fun x _ => ?_
  by_cases hx : x.id = r.id <;> cases x.value? b <;> simp [Option.filter, hx]

/-! ## The document of one rule -/

/-- The entry of a rule with nothing left out. -/
def Rule.written (r : Rule) : Entry :=
  ⟨some r.id, some r.name, some r.expression, some r.weight, some r.enabled, some r.description⟩

/-- The document of a rule and nothing else. -/
def Document.only (r : Rule) : Document := ⟨none, none, [r.written]⟩

/-- A rule that some entry has is the rule of its own complete entry. -/
theorem Entry.rule?_written {e : Entry} {r : Rule} (h : e.rule? = some r) : r.written.rule? = some r := by
  simp only [rule?, Option.bind_eq_bind, Option.bind_eq_some_iff, Option.filter_eq_some_iff] at h
  obtain ⟨id, ⟨-, hid⟩, expression, ⟨-, hexpr⟩, hr⟩ := h
  cases hr
  simp [rule?, Rule.written, Option.filter, hid, hexpr]

theorem Ruleset.ofDocument_only {e : Entry} {r : Rule} (h : e.rule? = some r) :
    ofDocument (.only r) = .ok ⟨standardVersion, [r], .standard⟩ := by
  have ht : ¬ (70 : Float) < 30 := by decide
  simp [ofDocument, Document.only, Entry.rule?_written h, Thresholds.ofEntry, Thresholds.standard, ht,
    selectRules, heaviestFirst]

/-- Every rule that a document gives is the rule of some entry. -/
theorem Ruleset.entry_of_mem {d : Document} {rs : Ruleset} (h : ofDocument d = .ok rs) {r : Rule}
    (hr : r ∈ rs.rules) : ∃ e : Entry, e.rule? = some r := by
  simp only [ofDocument] at h
  split at h
  · cases h
  · cases h
    have hm := (selectRules_sublist _ _).subset (List.mem_mergeSort.1 hr)
    obtain ⟨e, -, he⟩ := List.mem_filterMap.1 hm
    exact ⟨e, he⟩

namespace Rulebook

variable {b b' : Rulebook}

/-- Every rule in force is the rule of some entry. -/
def Written (b : Rulebook) : Prop := ∀ r ∈ b.store.current.ruleset.rules, ∃ e : Entry, e.rule? = some r

theorem written_start (o : Origin) : (start o).Written := nofun

theorem Written.sameLoads (h : b.Written) (hs : b.SameLoads b') : b'.Written := by
  unfold Written
  rw [hs.store]
  exact h

theorem Written.moves (h : b.Written) {q : Option LoadResult} (hm : b.Moves b' q) : b'.Written := by
  cases q with
  | none => exact h.sameLoads hm.sameLoads
  | some result =>
    obtain ⟨c, hl, hstore, hmetrics⟩ := hm.loads
    have hc : c.Written := by
      cases hl with
      | replaced hr =>
        obtain ⟨d, -, hd⟩ := Source.read_of_load hr
        exact fun r hr => Ruleset.entry_of_mem hd hr
      | blamed he => exact h
    exact hc.sameLoads ⟨by rw [hstore], hmetrics⟩

/-- The rule is the only one in force. -/
structure HasOnly (b : Rulebook) (r : Rule) : Prop where
  loaded : b.store.current.generation ≠ 0
  rules : b.store.current.ruleset.rules = [r]

/-- The first load of a document in memory puts its rule set in force. -/
theorem current_reload {d : Document} {rs : Ruleset} (h : Ruleset.ofDocument d = .ok rs) :
    (start (.memory d)).reload.1.store.current = ⟨rs, 1⟩ := by
  have hl : (start (.memory d)).source.load = .ok rs := by
    simp [start, Source.start, Source.load, Source.read, h]
  have hr := loads_reload (start (.memory d))
  generalize (start (.memory d)).reload = x at hr
  obtain ⟨b', result⟩ := x
  cases hr with
  | replaced hr =>
    rw [hl] at hr
    cases hr
    rfl
  | blamed he =>
    rw [hl] at he
    cases he

/-- The first load leaves nothing counted. -/
theorem counts_reload (o : Origin) : (start o).reload.1.store.telemetry.Counts [] := by
  have hr := loads_reload (start o)
  generalize (start o).reload = x at hr
  obtain ⟨b', result⟩ := x
  refine Telemetry.counts_nil fun id => ?_
  cases hr with
  | replaced => exact Telemetry.stats_register ..
  | blamed => rfl

/-- A rule of some entry can be put in force by itself. -/
theorem hasOnly_reload {e : Entry} {r : Rule} (h : e.rule? = some r) :
    (start (.memory (.only r))).reload.1.HasOnly r := by
  have hc := current_reload (Ruleset.ofDocument_only h)
  exact ⟨by simp [hc], by simp [hc]⟩

end Rulebook

/-! ## Sessions -/

/-- Together the rules of a pass took a time that can be told. -/
theorem inRange_attemptsOf {r : Ruleset} (h : r.IdsUnique) (c : Context) (times : Times) :
    InRange (attemptsOf times (outcomes r c)) := by
  have hle := times.total_le _ h.enabledRules
  rw [Duration.total_eq_sum, List.map_map, List.map_map] at hle
  refine inRange_of_sum_le ?_
  simp only [attemptsOf, outcomes, List.map_map]
  exact hle

/-- As long as nothing was counted, a pass can be. -/
theorem Store.overruns_of_counts_nil {s : Store} (h : s.telemetry.Counts []) {p : Published}
    (hu : p.ruleset.IdsUnique) (c : Context) (times : Times) : s.overruns p c times = false := by
  have hfits := h.fitsAll (attemptsOf times (outcomes p.ruleset c)) (inRange_attemptsOf hu c times)
  rw [overruns, hfits, Bool.not_true, Bool.and_false]

/-- A pass that is made ends when none of its rules crashes. -/
theorem pass_eq_some_iff {p : Published} {ctx : Context} (ha : p.admits ctx = true) {m : PassResult} :
    pass p ctx = some m ↔
      (outcomes p.ruleset ctx).any (·.2.isCrash) = false ∧
        .ofOutcomes p.ruleset.version (outcomes p.ruleset ctx) = m := by
  simp only [pass, ha, if_true]
  cases (outcomes p.ruleset ctx).any (·.2.isCrash) <;> simp

/-- If a pass ends, so does the pass over one of its rules, with the result that this rule has in it. -/
theorem pass_only {p q : Published} {ctx : Context} {m : PassResult} (hp : p.ruleset.IdsUnique)
    (hq : q.generation ≠ 0) (ha : p.admits ctx = true) (hm : pass p ctx = some m) {r : Rule}
    (hr : r ∈ p.ruleset.rules) (hrules : q.ruleset.rules = [r]) :
    ∃ m', pass q ctx = some m' ∧ m'.results = m.results.filter (·.ruleId = r.id) := by
  obtain ⟨hno, rfl⟩ := (pass_eq_some_iff ha).1 hm
  have haq : q.admits ctx = true := by
    have hv : ctx.isValid = true := (Bool.and_eq_true_iff.1 ha).2
    simp [Published.admits, hq, hv]
  have hall : q.ruleset.enabledRules = [r].filter (·.enabled) := by rw [Ruleset.enabledRules, hrules]
  -- the only rule of `q`, if it is enabled, is one of those that do not crash
  have hnoq : (outcomes q.ruleset ctx).any (·.2.isCrash) = false := by
    refine List.any_eq_false.2 fun x hx => List.any_eq_false.1 hno x ?_
    rw [outcomes, hall] at hx
    refine List.map_subset _ (fun y hy => ?_) hx
    obtain ⟨hy, he⟩ := List.mem_filter.1 hy
    rw [List.mem_singleton.1 hy] at he ⊢
    exact List.mem_filter.2 ⟨hr, he⟩
  have huq : q.ruleset.IdsUnique := by simp [Ruleset.IdsUnique, hrules]
  refine ⟨_, (pass_eq_some_iff haq).2 ⟨hnoq, rfl⟩, ?_⟩
  rw [(accounts_ofOutcomes hp ctx).results_of hp hr, (accounts_ofOutcomes huq ctx).results, hall]

namespace Session

/-- An evaluation has an answer if its times can be counted and its pass ends. -/
theorem Coherent.evaluate_eq_some_iff {s : Session} (h : s.Coherent) {engine worker : Nat} {ctx : Context}
    {times : Times} {m : PassResult} :
    (s.evaluate engine worker ctx times).2 = some m ↔
      s.book.store.overruns s.book.store.current ctx times = false ∧ pass s.book.store.current ctx = some m := by
  rw [(h.evaluate engine worker ctx times).2]
  cases s.book.store.overruns s.book.store.current ctx times <;> simp

/-- **Exact accounts.** After any actions whatever, an evaluation that ends reports the results of exactly those
enabled rules that have a value, with counts and a total that agree with them. Each rule in force, enabled or
not, can be put in force by itself, where any times can be counted; and wherever it is the only rule in force, the
same context is evaluated with the very results that this rule has here, unless its times cannot be counted there. -/
theorem evaluate_accounts (o : Origin) (as : List Action) (engine worker : Nat) (ctx : Context) (times : Times)
    {m : PassResult} (hg : ((start o).run as).book.store.current.generation ≠ 0) (hv : ctx.isValid = true)
    (hm : (((start o).run as).evaluate engine worker ctx times).2 = some m) :
    let rs := ((start o).run as).book.store.current.ruleset
    m.Accounts rs.enabledRules ctx.values ∧
      ∀ r ∈ rs.rules,
        (∃ d, let s := (start (.memory d)).run [.reload]
          s.book.HasOnly r ∧ ∀ times', s.book.store.overruns s.book.store.current ctx times' = false) ∧
        ∀ o' as' engine' worker' times',
          let s := (start o').run as'
          s.book.HasOnly r → s.book.store.overruns s.book.store.current ctx times' = false →
            ∃ m', (s.evaluate engine' worker' ctx times').2 = some m' ∧
              m'.results = m.results.filter (·.ruleId = r.id) := by
  intro rs
  have hc : ((start o).run as).Coherent := (coherent_start o).run as
  obtain ⟨-, hm⟩ := hc.evaluate_eq_some_iff.1 hm
  have ha : ((start o).run as).book.store.current.admits ctx = true := by
    simp [Published.admits, hg, hv]
  refine ⟨?_, fun r hr => ⟨?_, ?_⟩⟩
  · rw [← ((pass_eq_some_iff ha).1 hm).2]
    exact accounts_ofOutcomes hc.numbered.ids ctx
  · have hw : ((start o).run as).book.Written :=
      invariant_run (fun _ _ _ h hm => h.moves hm) as (s := start o) (Rulebook.written_start o)
    obtain ⟨e, he⟩ := hw r hr
    have honly : ((start (.memory (.only r))).run [.reload]).Coherent := (coherent_start _).run _
    exact ⟨.only r, Rulebook.hasOnly_reload he,
      Store.overruns_of_counts_nil (Rulebook.counts_reload _) honly.numbered.ids ctx⟩
  · intro o' as' engine' worker' times' s honly hfits
    have hc' : s.Coherent := (coherent_start o').run as'
    obtain ⟨m', hm', hresults⟩ := pass_only hc.numbered.ids honly.loaded ha hm hr honly.rules
    exact ⟨m', hc'.evaluate_eq_some_iff.2 ⟨hfits, hm'⟩, hresults⟩

/-- Of seven rules two trigger, one has a value that is too small, one does not compile, one is a text, one names
a variable that is not bound and one is disabled. The worker has evaluated another context before. -/
theorem evaluate_accounts_mixed :
    let entry (id expression : String) (weight : Weight) : Entry :=
      ⟨some id, none, some expression, some weight, none, none⟩
    let d : Document := ⟨some "7", none,
      [entry "abroad" "issuer_country != \"DE\"" 25, entry "large" "amount > 1000" 20,
       entry "risky" "customer_risk_score" 5, entry "open" "(amount" 1, entry "text" "currency" 1,
       entry "unbound" "velocity > 3" 1, { entry "off" "true" 1 with enabled := some false }]⟩
    let paid (amount : Float) (country : String) : Context := .ofTransaction
      { requestId := "r", timestamp := ⟨0, 0⟩, purchase := ⟨amount, "EUR", "m", 5411, "chip"⟩,
        card := ⟨"t", country, "visa"⟩, device := ⟨"10.0.0.1", "f", "u"⟩, customer := ⟨"c", 0.25, 400⟩ }
    let rs : Ruleset := ⟨"7", d.rules.filterMap Entry.rule?, .standard⟩
    let s := (start (.memory d)).run [.reload, .evaluate 0 0 (paid 5 "DE") .zero]
    s.book.store.current = ⟨rs, 1⟩ ∧ ∃ m, (s.evaluate 0 0 (paid 5000 "FR") .zero).2 = some m ∧
      (m.triggeredRules = ["abroad", "large"] ∧ m.totalScore = 45 ∧ m.evaluated = 3 ∧ m.failed = 3) ∧
      m.Accounts s.book.store.current.ruleset.enabledRules (paid 5000 "FR").values := by
  intro entry d paid rs s
  -- the heaviest rules stand first already, so that nothing has to be sorted
  have hsorted : heaviestFirst (selectRules [] d.rules) = rs.rules := by
    have hfirst : selectRules [] d.rules = rs.rules := rfl
    rw [hfirst]
    exact List.mergeSort_of_pairwise (by decide +kernel)
  have hd : Ruleset.ofDocument d = .ok rs := by
    have ht : ¬ (70 : Float) < 30 := by decide
    refine (if_neg ht).trans ?_
    rw [hsorted]
    rfl
  have hcurrent : s.book.store.current = ⟨rs, 1⟩ := by
    obtain ⟨t, e⟩ := ((start (.memory d)).run [.reload]).book_evaluate 0 0 (paid 5 "DE") .zero
    have hs : s.book = (((start (.memory d)).run [.reload]).evaluate 0 0 (paid 5 "DE") .zero).1.book := rfl
    rw [hs, e]
    exact Rulebook.current_reload hd
  have hm : (s.evaluate 0 0 (paid 5000 "FR") .zero).2 =
      some (.ofOutcomes "7" (outcomes rs (paid 5000 "FR"))) := by
    have hc : s.Coherent := (coherent_start _).run _
    have hno : (outcomes rs (paid 5000 "FR")).any (·.2.isCrash) = false := by decide +kernel
    refine hc.evaluate_eq_some_iff.2 ⟨s.book.store.overruns_zero _ _, ?_⟩
    rw [hcurrent]
    exact (pass_eq_some_iff (by decide +kernel)).2 ⟨hno, rfl⟩
  have hg : s.book.store.current.generation ≠ 0 := by simp [hcurrent]
  refine ⟨hcurrent, _, hm, by decide +kernel, ?_⟩
  exact (evaluate_accounts _ _ 0 0 _ _ hg (by decide +kernel) hm).1

end Session

end FraudScreen.Rules
