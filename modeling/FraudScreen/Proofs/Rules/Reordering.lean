import FraudScreen.Proofs.Decimal.Sum
import FraudScreen.Proofs.Rules.Accounting
import FraudScreen.Proofs.Rules.Selection

/-!
# Documents in another order

If no identifier stands twice, the entries of a document can be put in another order, and its rule set has the same
rules, in an order that differs for rules of one weight only (`Ruleset.Reorders`). A floating-point sum depends on the
order of its terms. Rules that trigger add their weights, though, and these come in the same order
(`Ruleset.Reorders.map_weight_eq`); all others add zero, which changes no sum of scores (`foldl_scores`). So every pass
has the same score for both documents (`Session.evaluate_reordered`).
-/
namespace FraudScreen.Rules

/-! ## Rule sets -/

/-- No two complete entries have the same identifier. -/
def DistinctIds (entries : List Entry) : Prop := ((entries.filterMap Entry.rule?).map (·.id)).Nodup

instance (entries : List Entry) : Decidable (DistinctIds entries) :=
  inferInstanceAs (Decidable (List.Nodup _))

theorem selectRules_eq_filterMap {taken : List String} : ∀ {entries : List Entry}, DistinctIds entries →
    (∀ r ∈ entries.filterMap Entry.rule?, r.id ∉ taken) → selectRules taken entries = entries.filterMap Entry.rule?
  | [], _, _ => rfl
  | e :: rest, hids, hfree => by
    unfold DistinctIds at hids
    cases hr : e.rule? with
    | none =>
      rw [List.filterMap_cons_none hr] at hids hfree ⊢
      simp only [selectRules, hr]
      exact selectRules_eq_filterMap hids hfree
    | some r =>
      rw [List.filterMap_cons_some hr] at hids hfree ⊢
      rw [List.map_cons, List.nodup_cons] at hids
      simp only [selectRules, hr, if_neg (hfree r (List.mem_cons_self ..))]
      refine congrArg (r :: ·) (selectRules_eq_filterMap hids.2 fun s hs => ?_)
      rw [List.mem_cons, not_or]
      exact ⟨fun he => hids.1 (he ▸ List.mem_map_of_mem hs), hfree s (List.mem_cons_of_mem _ hs)⟩

/-- Rules are sorted by weight, the heaviest first. -/
def IsDescending (rules : List Rule) : Prop :=
  rules.Pairwise fun a b => b.weight.rank ≤ a.weight.rank

/-- Weights of one rank are the same. -/
theorem weight_eq_of_rank {a b : Rule} (hab : b.weight.rank ≤ a.weight.rank)
    (hba : a.weight.rank ≤ b.weight.rank) : a.weight = b.weight :=
  orderKey_injective (le_antisymm (orderKey_le_iff.2 hba) (orderKey_le_iff.2 hab))

/-- Two rule sets that differ in the order of rules of one weight only. -/
structure Ruleset.Reorders (rs rs' : Ruleset) : Prop where
  version : rs'.version = rs.version
  thresholds : rs'.thresholds = rs.thresholds
  perm : rs'.rules.Perm rs.rules
  descending : IsDescending rs.rules
  descending' : IsDescending rs'.rules

namespace Ruleset

/-- The entries of a document can be put in another order. -/
theorem ofDocument_reorders {d : Document} {entries : List Entry} (hp : entries.Perm d.rules)
    (hids : DistinctIds d.rules) {rs : Ruleset} (hd : ofDocument d = .ok rs) :
    ∃ rs', ofDocument { d with rules := entries } = .ok rs' ∧ rs.Reorders rs' := by
  have hselect := hp.filterMap Entry.rule?
  have hids' : DistinctIds entries := (hselect.map Rule.id).nodup_iff.2 hids
  have hall : ∀ entries : List Entry, DistinctIds entries →
      selectRules [] entries = entries.filterMap Entry.rule? := fun _ h => selectRules_eq_filterMap h nofun
  simp only [ofDocument] at hd ⊢
  split at hd
  · cases hd
  · rename_i ht
    rw [if_neg ht]
    cases hd
    have hranking := isRanking_heaviestFirst (selectRules [] d.rules)
    have hranking' := isRanking_heaviestFirst (selectRules [] entries)
    refine ⟨_, rfl, rfl, rfl, ?_, hranking.descending, hranking'.descending⟩
    refine hranking'.perm.trans (.trans ?_ hranking.perm.symm)
    rwa [hall _ hids, hall _ hids']

namespace Reorders

variable {rs rs' : Ruleset} (h : rs.Reorders rs')

include h

theorem perm_enabledRules : rs'.enabledRules.Perm rs.enabledRules := h.perm.filter _

/-- **The weights of chosen rules** come in the same order. -/
theorem map_weight_eq (p : Rule → Bool) :
    (rs'.enabledRules.filter p).map (·.weight) = (rs.enabledRules.filter p).map (·.weight) := by
  have hsorted {rules : List Rule} (hr : IsDescending rules) :
      (((rules.filter (·.enabled)).filter p).map (·.weight)).Pairwise fun x y => y.rank ≤ x.rank :=
    ((hr.sublist List.filter_sublist).sublist List.filter_sublist).map _ fun _ _ hab => hab
  refine List.Perm.eq_of_pairwise (fun x y _ _ hxy hyx => ?_) (hsorted h.descending') (hsorted h.descending)
    ((h.perm_enabledRules.filter p).map _)
  exact orderKey_injective (le_antisymm (orderKey_le_iff.2 hyx) (orderKey_le_iff.2 hxy))

/-- Rules of different weights are in the same order. -/
theorem enabledRules_eq (hw : (rs.enabledRules.map fun r => orderKey r.weight).Nodup) :
    rs'.enabledRules = rs.enabledRules := by
  refine List.Perm.eq_of_pairwise (fun a b ha hb hab hba => ?_)
    (h.descending'.sublist List.filter_sublist) (h.descending.sublist List.filter_sublist) h.perm_enabledRules
  have hkey : orderKey a.weight = orderKey b.weight := congrArg orderKey (weight_eq_of_rank hab hba)
  exact List.inj_on_of_nodup_map hw (h.perm_enabledRules.mem_iff.1 ha) hb hkey

end Reorders

end Ruleset

/-! ## Scores -/

/-- The rule has a value that triggers it. -/
def Rule.triggersOn (b : Expr.Bindings) (r : Rule) : Bool := (r.value? b).any ((0.5 : Float) < ·)

theorem map_score_resultsOf (rules : List Rule) (b : Expr.Bindings) :
    (resultsOf rules b).map (·.score) =
      (rules.filter fun r => (r.value? b).isSome).map fun r => if r.triggersOn b then r.weight.toFloat else 0 := by
  induction rules with
  | nil => rfl
  | cons r rules ih =>
    unfold resultsOf at ih ⊢
    cases hv : r.value? b with
    | none => simpa [hv] using ih
    | some x => simp [hv, ih, Rule.triggersOn, Rule.resultOf]

/-- **The score of a pass** is the sum of the weights of the rules that trigger, the heaviest first. -/
theorem foldl_scores (rules : List Rule) (b : Expr.Bindings) :
    ((resultsOf rules b).map (·.score)).foldl (· + ·) 0 =
      ((rules.filter (·.triggersOn b)).map (·.weight.toFloat)).foldl (· + ·) 0 := by
  have hzero : (0 : Float) ≠ -0 := by decide
  have hvalue (r : Rule) : (decide (r.triggersOn b = true) && (r.value? b).isSome) = r.triggersOn b := by
    unfold Rule.triggersOn
    cases r.value? b <;> simp
  rw [map_score_resultsOf, Decimal.foldl_add_ite (fun r : Rule => r.triggersOn b = true) _ _ hzero, List.filter_filter]
  simp only [hvalue]

/-! ## Passes -/

/-- Two results that agree but for the order of rules. -/
structure PassResult.Agrees (m m' : PassResult) : Prop where
  totalScore : m'.totalScore = m.totalScore
  evaluated : m'.evaluated = m.evaluated
  failed : m'.failed = m.failed
  triggered : m'.triggered = m.triggered
  results : m'.results.Perm m.results

theorem PassResult.Agrees.refl (m : PassResult) : m.Agrees m := ⟨rfl, rfl, rfl, rfl, .refl _⟩

theorem Ruleset.Reorders.agrees {rs rs' : Ruleset} (h : rs.Reorders rs') {b : Expr.Bindings} {m m' : PassResult}
    (hm : m.Accounts rs.enabledRules b) (hm' : m'.Accounts rs'.enabledRules b) : m.Agrees m' := by
  have hperm := h.perm_enabledRules
  have hresults : m'.results.Perm m.results := by
    rw [hm.results, hm'.results]
    exact hperm.filterMap _
  have hevaluated : m'.evaluated = m.evaluated := by
    rw [hm.evaluated, hm'.evaluated, hresults.length_eq]
  refine ⟨?_, hevaluated, ?_, ?_, hresults⟩
  · have hweights := congrArg (List.map Weight.toFloat) (h.map_weight_eq (·.triggersOn b))
    rw [List.map_map, List.map_map] at hweights
    rw [hm.totalScore, hm'.totalScore, hm.results, hm'.results, foldl_scores, foldl_scores]
    exact congrArg (List.foldl (· + ·) 0) hweights
  · have hlength := hperm.length_eq
    rw [← hm.failed, ← hm'.failed] at hlength
    omega
  · rw [hm.triggered, hm'.triggered, PassResult.triggeredRules, PassResult.triggeredRules, List.length_map,
      List.length_map, (hresults.filter _).length_eq]

theorem Ruleset.Reorders.pass_agrees {p p' : Published} (h : p.ruleset.Reorders p'.ruleset)
    (hids : p.ruleset.IdsUnique) (hids' : p'.ruleset.IdsUnique) (hg : p.generation ≠ 0) (hg' : p'.generation ≠ 0)
    (ctx : Context) {m : PassResult} (hm : pass p ctx = some m) :
    ∃ m', pass p' ctx = some m' ∧ m.Agrees m' ∧
      ((p.ruleset.enabledRules.map fun r => orderKey r.weight).Nodup → m' = m) := by
  have hadmits : p'.admits ctx = p.admits ctx := by
    rw [Published.admits, Published.admits, bne_iff_ne.2 hg, bne_iff_ne.2 hg']
  cases ha : p.admits ctx with
  | false =>
    have he : PassResult.empty = m := by simpa [pass, ha] using hm
    exact ⟨m, by simp [pass, hadmits, ha, he], .refl m, fun _ => rfl⟩
  | true =>
    rw [ha] at hadmits
    obtain ⟨hno, rfl⟩ := (pass_eq_some_iff ha).1 hm
    have houtcomes : (outcomes p'.ruleset ctx).Perm (outcomes p.ruleset ctx) := h.perm_enabledRules.map _
    refine ⟨_, (pass_eq_some_iff hadmits).2 ⟨houtcomes.any_eq.trans hno, rfl⟩, ?_, fun hw => ?_⟩
    · exact h.agrees (accounts_ofOutcomes hids ctx) (accounts_ofOutcomes hids' ctx)
    · rw [outcomes, outcomes, h.enabledRules_eq hw, h.version]

/-! ## Sessions -/

/-- The rule set is in force. -/
structure Rulebook.Enforces (b : Rulebook) (rs : Ruleset) : Prop where
  loaded : b.store.current.generation ≠ 0
  ruleset : b.store.current.ruleset = rs

theorem Rulebook.enforces_reload {d : Document} {rs : Ruleset} (h : Ruleset.ofDocument d = .ok rs) :
    (start (.memory d)).reload.1.Enforces rs := by
  have hc := current_reload h
  exact ⟨by simp [hc], by simp [hc]⟩

namespace Session

/-- **The order of entries does not change a score.** Let no identifier stand twice in a document, and put its entries
in another order. There is a rule set for it as before. Whenever the one is in force in some session and the other
in another, and the first evaluates a context, then so does the second, unless statistics there cannot take up its
times, with the same score and counts and the same results of rules; and all is the same, the order of the results
included, if no two enabled rules weigh the same. -/
theorem evaluate_reordered {d : Document} {entries : List Entry} (hp : entries.Perm d.rules)
    (hids : DistinctIds d.rules) {rs : Ruleset} (hd : Ruleset.ofDocument d = .ok rs) :
    ∃ rs', Ruleset.ofDocument { d with rules := entries } = .ok rs' ∧ rs.Reorders rs' ∧
      ∀ (o o' : Origin) (as as' : List Action) (engine engine' worker worker' : ℕ) (ctx : Context)
          (times times' : Times) (m : PassResult),
        let s := (start o).run as
        let s' := (start o').run as'
        s.book.Enforces rs → s'.book.Enforces rs' → (s.evaluate engine worker ctx times).2 = some m →
          s'.book.store.overruns s'.book.store.current ctx times' = false →
            ∃ m', (s'.evaluate engine' worker' ctx times').2 = some m' ∧ m.Agrees m' ∧
              ((rs.enabledRules.map fun r => orderKey r.weight).Nodup → m' = m) := by
  obtain ⟨rs', hd', h⟩ := Ruleset.ofDocument_reorders hp hids hd
  refine ⟨rs', hd', h, fun o o' as as' engine engine' worker worker' ctx times times' m => ?_⟩
  intro s s' hs hs' hm hfits
  have hc : s.Coherent := (coherent_start o).run as
  have hc' : s'.Coherent := (coherent_start o').run as'
  obtain ⟨-, hm⟩ := hc.evaluate_eq_some_iff.1 hm
  have hr : s.book.store.current.ruleset.Reorders s'.book.store.current.ruleset := by
    rw [hs.ruleset, hs'.ruleset]
    exact h
  obtain ⟨m', hm', hresult⟩ := hr.pass_agrees hc.numbered.ids hc'.numbered.ids hs.loaded hs'.loaded ctx hm
  rw [hs.ruleset] at hresult
  exact ⟨m', hc'.evaluate_eq_some_iff.2 ⟨hfits, hm'⟩, hresult⟩

/-- Three rules trigger whose weights have another sum when the lightest is added first. One rule has a value that is
too small, one names a variable that is not bound, and one is disabled. The entries are put in reverse. -/
theorem evaluate_reordered_reversed :
    let entry (id expression : String) (weight : Weight) (enabled : Bool) : Entry :=
      ⟨some id, none, some expression, some weight, some enabled, none⟩
    let d : Document := ⟨some "7", none,
      [entry "unbound" "velocity > 3" 0.4 true, entry "abroad" "issuer_country != \"DE\"" 0.3 true,
       entry "off" "true" 0.3 false, entry "risky" "customer_risk_score" 0.25 true,
       entry "large" "amount > 1000" 0.2 true, entry "shop" "merchant_id == \"m\"" 0.1 true]⟩
    let d' : Document := { d with rules := d.rules.reverse }
    let rs : Ruleset := ⟨"7", d.rules.filterMap Entry.rule?, .standard⟩
    let paid : Context := .ofTransaction
      { requestId := "r", timestamp := ⟨0, 0⟩, purchase := ⟨5000, "EUR", "m", 5411, "chip"⟩,
        card := ⟨"t", "FR", "visa"⟩, device := ⟨"10.0.0.1", "f", "u"⟩, customer := ⟨"c", 0.25, 400⟩ }
    let s := (start (.memory d)).run [.reload]
    let s' := (start (.memory d')).run [.reload]
    (d'.rules.Perm d.rules ∧ DistinctIds d.rules ∧ Ruleset.ofDocument d = .ok rs) ∧
      ((0.1 + 0.2 + 0.3 : Float) ≠ 0.6 ∧ (rs.enabledRules.map fun r => orderKey r.weight).Nodup) ∧
      ∃ rs' m m', (Ruleset.ofDocument d' = .ok rs' ∧ s.book.Enforces rs ∧ s'.book.Enforces rs') ∧
        ((s.evaluate 0 0 paid .zero).2 = some m ∧ m.totalScore = 0.6 ∧ m.evaluated = 4 ∧ m.failed = 1 ∧
          m.triggered = 3) ∧
        (s'.evaluate 0 0 paid .zero).2 = some m' ∧ m.Agrees m' ∧ m' = m := by
  intro entry d d' rs paid s s'
  have hp : d'.rules.Perm d.rules := List.reverse_perm _
  have hids : DistinctIds d.rules := by decide +kernel
  have hsorted : heaviestFirst (selectRules [] d.rules) = rs.rules := by
    have hfirst : selectRules [] d.rules = rs.rules := rfl
    rw [hfirst]
    exact List.mergeSort_of_pairwise (by decide +kernel)
  have hd : Ruleset.ofDocument d = .ok rs := by
    have ht : ¬ (70 : Float) < 30 := by decide
    refine (if_neg ht).trans ?_
    rw [hsorted]
    rfl
  have hw : (rs.enabledRules.map fun r => orderKey r.weight).Nodup := by decide +kernel
  obtain ⟨rs', hd', -, hall⟩ := evaluate_reordered hp hids hd
  have hs : s.book.Enforces rs := Rulebook.enforces_reload hd
  have hs' : s'.book.Enforces rs' := Rulebook.enforces_reload hd'
  have hm : (s.evaluate 0 0 paid .zero).2 = some (.ofOutcomes "7" (outcomes rs paid)) := by
    have hc : s.Coherent := (coherent_start _).run _
    have hno : (outcomes rs paid).any (·.2.isCrash) = false := by decide +kernel
    have hcurrent : s.book.store.current = ⟨rs, 1⟩ := Rulebook.current_reload hd
    refine hc.evaluate_eq_some_iff.2 ⟨s.book.store.overruns_zero _ _, ?_⟩
    rw [hcurrent]
    exact (pass_eq_some_iff (by decide +kernel)).2 ⟨hno, rfl⟩
  obtain ⟨m', hm', hagrees, heq⟩ := hall _ _ [.reload] [.reload] 0 0 0 0 paid .zero .zero _ hs hs' hm
    (s'.book.store.overruns_zero _ _)
  exact ⟨⟨hp, hids, hd⟩, ⟨by decide, hw⟩, rs', _, m', ⟨hd', hs, hs'⟩, ⟨hm, by decide +kernel⟩, hm', hagrees, heq hw⟩

end Session

end FraudScreen.Rules
