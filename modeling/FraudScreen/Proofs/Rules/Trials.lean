import FraudScreen.Proofs.Rules.Accounting

/-!
# Statistics count trials

The statistics of the rules are changed by passes, by trials that a caller records, by loads that make rules
known, and by resets. `Session.log` lists what there was to count since the last reset, without looking at any
statistics: the passes that ended, each with its rule set, context and times, and the recorded trials. The counts of
a rule are those of this list as long as its times can be added (`Session.balanced_run`), and the rules that have
statistics are those that were published or recorded (`Session.hasRule_run`).
-/
namespace FraudScreen.Rules

/-! ## Events -/

/-- What statistics count. -/
inductive Event where
  /-- A pass over the enabled rules of a rule set, which took the given times, and in which no rule crashed. -/
  | pass (r : Ruleset) (ctx : Context) (times : Times)
  | record (a : Attempt)

namespace Event

/-- The rule was tried, whether or not it has a value. -/
def tries (id : String) : Event → Bool
  | pass r _ _ => r.enabledRules.any (·.id = id)
  | record a => a.ruleId = id

/-- The rule was tried and triggered. -/
def hits (id : String) : Event → Bool
  | pass r ctx _ => r.enabledRules.any fun rule => rule.id = id && (rule.value? ctx.values).any ((0.5 : Float) < ·)
  | record a => a.ruleId = id && a.triggered

/-- The trials that statistics are given of an event. -/
def attempts : Event → List Attempt
  | pass r ctx times => attemptsOf times (outcomes r ctx)
  | record a => [a]

end Event

/-- Of different names, one at most is the one that is looked for. -/
theorem countP_of_nodup {α β : Type} [DecidableEq β] (f : α → β) (y : β) (q : α → Bool) {l : List α}
    (h : (l.map f).Nodup) :
    l.countP (fun x => f x = y && q x) = if l.any fun x => f x = y && q x then 1 else 0 := by
  induction l with
  | nil => rfl
  | cons x l ih =>
    rw [List.map_cons, List.nodup_cons] at h
    rw [List.countP_cons, List.any_cons, ih h.2]
    by_cases hx : f x = y
    · -- no other member has the name of this one
      have hrest : (l.any fun x => f x = y && q x) = false := by
        refine List.any_eq_false.2 fun z hz hq => h.1 ?_
        have hzy : f z = y := of_decide_eq_true (Bool.and_eq_true_iff.1 hq).1
        exact List.mem_map.2 ⟨z, hz, hzy.trans hx.symm⟩
      cases q x <;> simp [hx, hrest]
    · simp [hx]

/-- A rule triggers when its value exceeds one half. -/
theorem Rule.triggers_outcome (r : Rule) (b : Expr.Bindings) :
    (r.outcome b).triggers = (r.value? b).any ((0.5 : Float) < ·) := by
  have hresult : (r.outcome b).triggers = (r.result? (r.outcome b)).any (·.triggered) := by
    cases r.outcome b <;> rfl
  rw [hresult, r.result?_outcome b]
  cases r.value? b <;> rfl

/-- A pass tries each of its rules once. -/
theorem Event.countP_attempts {e : Event} (h : ∀ r ctx times, e = .pass r ctx times → r.IdsUnique) (id : String) :
    e.attempts.countP (·.tries id) = [e].countP (·.tries id) ∧
      e.attempts.countP (·.hits id) = [e].countP (·.hits id) := by
  cases e with
  | record a => exact ⟨rfl, rfl⟩
  | pass r ctx times =>
    have hu : (r.enabledRules.map (·.id)).Nodup := (h r ctx times rfl).enabledRules
    have hall := countP_of_nodup Rule.id id (fun _ => true) hu
    have hhits := countP_of_nodup Rule.id id (fun rule => (rule.outcome ctx.values).triggers) hu
    simp only [Bool.and_true] at hall
    constructor
    · simp only [attempts, attemptsOf, outcomes, List.map_map, List.countP_map, List.countP_singleton, tries]
      exact hall
    · simp only [attempts, attemptsOf, outcomes, List.map_map, List.countP_map, List.countP_singleton, hits,
        ctx.bind_eq_values (.inl rfl), ← Rule.triggers_outcome]
      exact hhits

/-! ## Sessions -/

/-- The identifiers of the rules that loads published. -/
def publishedIds (past : List LoadResult) : List String :=
  (published past).flatMap fun p => p.ruleset.rules.map (·.id)

theorem publishedIds_append (past more : List LoadResult) :
    publishedIds (past ++ more) = publishedIds past ++ publishedIds more := by
  simp [publishedIds, published]

theorem mem_publishedIds_iff {past : List LoadResult} {id : String} :
    id ∈ publishedIds past ↔ ∃ p ∈ published past, ∃ r ∈ p.ruleset.rules, r.id = id := by
  simp [publishedIds]

namespace Rulebook

variable {b b' : Rulebook}

/-- A load makes the rules known that it publishes. -/
theorem Loads.telemetry {result : LoadResult} (hl : b.Loads b' result) :
    b'.store.telemetry = b.store.telemetry.register (publishedIds [result]) := by
  cases hl with
  | replaced hr => simp [publishedIds, published, Except.toOption, Rulebook.replaced, Store.publish, Store.remember]
  | blamed he => rfl

theorem Checks.telemetry {q : Option LoadResult} (hc : b.Checks b' q) :
    b'.store.telemetry = b.store.telemetry.register (publishedIds q.toList) := by
  cases hc with
  | idle => rfl
  | published _ _ _ hr => exact (Loads.replaced hr).telemetry
  | failed _ _ _ he => exact (Loads.blamed he).telemetry

end Rulebook

namespace Session

/-- What statistics are to count of an action: a pass that is made and ends, or a recorded trial. -/
def event? (s : Session) : Action → Option Event
  | .evaluate engine _ ctx times =>
    let p := s.book.store.current
    if engine ∈ s.engines ∧ p.admits ctx = true ∧ (pass p ctx).isSome = true then some (.pass p.ruleset ctx times)
    else none
  | .record a => some (.record a)
  | _ => none

/-- The events since the last reset after one more action. -/
def logged (s : Session) (past : List Event) (a : Action) : List Event :=
  match a with
  | .resetTelemetry => []
  | _ => past ++ (s.event? a).toList

/-- The events since the last reset after actions in order, if there were those of `past` before. -/
def log (s : Session) (past : List Event) : List Action → List Event
  | [] => past
  | a :: as => (s.step a).log (s.logged past a) as

theorem log_append (as bs : List Action) : ∀ (s : Session) (past : List Event),
    s.log past (as ++ bs) = (s.run as).log (s.log past as) bs := by
  induction as with
  | nil => exact fun _ _ => rfl
  | cons a as ih => exact fun s past => ih _ _

/-- The rules of the trials that a caller recorded. -/
def recordedIds (as : List Action) : List String :=
  as.filterMap fun
    | .record a => some a.ruleId
    | _ => none

theorem mem_recordedIds_iff {as : List Action} {id : String} :
    id ∈ recordedIds as ↔ ∃ a, .record a ∈ as ∧ a.ruleId = id := by
  simp only [recordedIds, List.mem_filterMap]
  constructor
  · rintro ⟨c, hc, he⟩
    cases c with
    | record a => exact ⟨a, hc, Option.some.inj he⟩
    | _ => cases he
  · rintro ⟨a, ha, rfl⟩
    exact ⟨_, ha, rfl⟩

/-- An evaluation hands the trials of its pass to the statistics if a pass is made and ends. -/
theorem telemetry_evaluate {s : Session} (h : s.Coherent) (engine worker : Nat) (ctx : Context) (times : Times) :
    let p := s.book.store.current
    (s.evaluate engine worker ctx times).1.book.store.telemetry =
      if p.admits ctx = true ∧ (pass p ctx).isSome = true then
        s.book.store.telemetry.recordAll (attemptsOf times (outcomes p.ruleset ctx))
      else s.book.store.telemetry := by
  intro p
  cases ha : p.admits ctx with
  | true =>
    rw [h.evaluate_of_admits ha]
    simp only [Store.finishPass, pass, ha, if_true]
    cases (outcomes p.ruleset ctx).any (·.2.isCrash) <;> rfl
  | false => simp [evaluate, ha, p]

/-- **One action.** It resets the statistics, gives them the trials of an event, or makes the rules of a load
known. -/
theorem telemetry_step {s : Session} (h : s.Coherent) (a : Action) :
    let t := s.book.store.telemetry
    let t' := (s.step a).book.store.telemetry
    (a = .resetTelemetry ∧ t' = t.reset) ∨
      a ≠ .resetTelemetry ∧
        ((∃ e, s.event? a = some e ∧ s.load? a = none ∧ t' = t.recordAll e.attempts) ∨
          (s.event? a = none ∧ t' = t.register (publishedIds (s.load? a).toList))) := by
  intro t t'
  by_cases hr : a = .resetTelemetry
  · subst hr
    exact .inl ⟨rfl, rfl⟩
  refine .inr ⟨hr, ?_⟩
  cases a with
  | resetTelemetry => exact absurd rfl hr
  | record a => exact .inl ⟨_, rfl, rfl, rfl⟩
  | evaluate engine worker ctx times =>
    have ht := telemetry_evaluate h engine worker ctx times
    by_cases he : engine ∈ s.engines
    · have hstep : t' = (s.evaluate engine worker ctx times).1.book.store.telemetry := by
        simp only [t', step, he, if_true]
      rw [hstep, ht]
      by_cases hp : s.book.store.current.admits ctx = true ∧ (pass s.book.store.current ctx).isSome = true
      · rw [if_pos hp]
        exact .inl ⟨_, if_pos ⟨he, hp⟩, rfl, rfl⟩
      · rw [if_neg hp]
        exact .inr ⟨if_neg fun hc => hp hc.2, rfl⟩
    · refine .inr ⟨if_neg fun hc => he hc.1, ?_⟩
      simp only [t', step, he, if_false]
      rfl
  | reload => exact .inr ⟨rfl, s.book.loads_reload.telemetry⟩
  | poll => exact .inr ⟨rfl, s.book.checks_poll.telemetry⟩
  | enablePolling interval observer =>
    refine .inr ⟨rfl, ?_⟩
    have hstore : (s.step (.enablePolling interval observer)).book.store = s.book.store :=
      (s.step_switch (.inl ⟨_, _, rfl⟩)).1
    exact congrArg Store.telemetry hstore
  | clearCache engine worker =>
    refine .inr ⟨rfl, ?_⟩
    simp only [t', step]
    split <;> rfl
  | replace | write | setOffline | addEngine | dropEngine | disablePolling => exact .inr ⟨rfl, rfl⟩

/-- No action gives a rule statistics twice. -/
theorem oneEach_run (as : List Action) : ∀ {s : Session}, s.Coherent → s.book.store.telemetry.OneEach →
    (s.run as).book.store.telemetry.OneEach := by
  induction as with
  | nil => exact fun _ ht => ht
  | cons a as ih =>
    intro s h ht
    refine ih (h.step a) ?_
    obtain ⟨-, e⟩ | ⟨-, ⟨_, -, -, e⟩ | ⟨-, e⟩⟩ := telemetry_step h a
    · exact e ▸ ht.reset
    · exact e ▸ Telemetry.OneEach.recordAll _ ht
    · exact e ▸ ht.register _

/-! ## The counts -/

theorem logged_of_ne {a : Action} (h : a ≠ .resetTelemetry) (s : Session) (past : List Event) :
    s.logged past a = past ++ (s.event? a).toList := by
  cases a with
  | resetTelemetry => exact absurd rfl h
  | _ => rfl

/-- A pass is over the rule set in force. -/
theorem ruleset_of_event? {s : Session} {a : Action} {r : Ruleset} {ctx : Context} {times : Times}
    (h : s.event? a = some (.pass r ctx times)) : r = s.book.store.current.ruleset := by
  cases a with
  | evaluate engine worker ctx' times' =>
    obtain ⟨-, he⟩ := Option.ite_none_right_eq_some.1 h
    cases he
    rfl
  | record a => cases h
  | _ => cases h

/-- The trials of events. -/
def trialsOf (log : List Event) : List Attempt := log.flatMap Event.attempts

theorem trialsOf_perm {log log' : List Event} (h : log.Perm log') : (trialsOf log).Perm (trialsOf log') :=
  h.flatMap_right _

/-- What statistics are to the events since the last reset: they count all trials, unless these took too long, and in
any case there are no more than those. -/
structure Balanced (t : Telemetry) (log : List Event) : Prop where
  /-- A pass tries each of its rules once. -/
  tries : ∀ id, (trialsOf log).countP (·.tries id) = log.countP (·.tries id)
  hits : ∀ id, (trialsOf log).countP (·.hits id) = log.countP (·.hits id)
  counts : InRange (trialsOf log) → t.Counts (trialsOf log)
  atMost : ∀ id, t.AtMost id (log.countP (·.tries id))

theorem balanced_nil {t : Telemetry} (h : ∀ id, t.stats id = .zero) : Balanced t [] :=
  ⟨fun _ => rfl, fun _ => rfl, fun _ => Telemetry.counts_nil h,
    fun id => ⟨0, 0, Nat.le_refl _, Nat.le_refl _, by rw [h id]; rfl, by rw [h id]; rfl⟩⟩

theorem balanced_start (o : Origin) : Balanced (start o).book.store.telemetry [] := balanced_nil fun _ => rfl

/-- Statistics that are given the trials of one more event. -/
theorem Balanced.recordAll {t : Telemetry} {past : List Event} (h : Balanced t past) {e : Event}
    (hu : ∀ r ctx times, e = .pass r ctx times → r.IdsUnique) : Balanced (t.recordAll e.attempts) (past ++ [e]) := by
  have happend : trialsOf (past ++ [e]) = trialsOf past ++ e.attempts := by simp [trialsOf]
  refine ⟨fun id => ?_, fun id => ?_, fun hrange => ?_, fun id => ?_⟩
  · rw [happend, List.countP_append, List.countP_append, h.tries, (Event.countP_attempts hu id).1]
  · rw [happend, List.countP_append, List.countP_append, h.hits, (Event.countP_attempts hu id).2]
  · rw [happend] at hrange ⊢
    exact Telemetry.counts_recordAll h.counts hrange
  · rw [List.countP_append, ← (Event.countP_attempts hu id).1]
    exact (h.atMost id).recordAll _

theorem Balanced.congr {t t' : Telemetry} {log : List Event} (h : Balanced t log)
    (hs : ∀ id, t'.stats id = t.stats id) : Balanced t' log := by
  refine ⟨h.tries, h.hits, fun hrange => (h.counts hrange).congr hs, fun id => ?_⟩
  obtain ⟨hits, made, hle, hmade, hh, he⟩ := h.atMost id
  exact ⟨hits, made, hle, hmade, hs id ▸ hh, hs id ▸ he⟩

theorem Balanced.step {s : Session} (h : s.Coherent) {past : List Event}
    (hb : Balanced s.book.store.telemetry past) (a : Action) :
    Balanced (s.step a).book.store.telemetry (s.logged past a) := by
  obtain ⟨rfl, ht⟩ | ⟨hne, ⟨e, he, -, ht⟩ | ⟨he, ht⟩⟩ := telemetry_step h a
  · rw [ht]
    exact balanced_nil (Telemetry.stats_reset _)
  · have hu : ∀ r ctx times, e = .pass r ctx times → r.IdsUnique := by
      rintro r ctx times rfl
      exact ruleset_of_event? he ▸ h.numbered.ids
    rw [ht, logged_of_ne hne, he]
    exact hb.recordAll hu
  · rw [ht, logged_of_ne hne, he, Option.toList_none, List.append_nil]
    exact hb.congr (Telemetry.stats_register _ _)

/-- After any actions, statistics are to the events since the last reset what they should be. -/
theorem balanced_run (as : List Action) : ∀ {s : Session} {past : List Event}, s.Coherent →
    Balanced s.book.store.telemetry past → Balanced (s.run as).book.store.telemetry (s.log past as) := by
  induction as with
  | nil => exact fun _ hb => hb
  | cons a as ih => exact fun h hb => ih (h.step a) (hb.step h a)

/-! ## The rules that have statistics -/

theorem hasRule_start (o : Origin) (id : String) :
    (start o).book.store.telemetry.HasRule id ↔ id ∈ publishedIds [] ∨ id ∈ ([] : List String) := by
  simp [start, Rulebook.start, Store.empty, Telemetry.HasRule, publishedIds, published]

/-- A rule in force was published. -/
theorem mem_publishedIds {b : Rulebook} {past : List LoadResult} (h : b.Reflects past) {r : Rule}
    (hr : r ∈ b.store.current.ruleset.rules) : r.id ∈ publishedIds past := by
  rw [h.current] at hr
  cases hl : (published past).getLast? with
  | none =>
    rw [hl] at hr
    exact absurd hr List.not_mem_nil
  | some p =>
    rw [hl] at hr
    exact List.mem_flatMap.2 ⟨p, List.mem_of_getLast? hl, List.mem_map_of_mem hr⟩

theorem hasRule_step {s : Session} (h : s.Coherent) {past : List LoadResult} (hr : s.book.Reflects past)
    {recorded : List String}
    (hk : ∀ id, s.book.store.telemetry.HasRule id ↔ id ∈ publishedIds past ∨ id ∈ recorded) (a : Action)
    (id : String) :
    (s.step a).book.store.telemetry.HasRule id ↔
      id ∈ publishedIds (past ++ (s.load? a).toList) ∨ id ∈ recorded ++ recordedIds [a] := by
  obtain ⟨rfl, ht⟩ | ⟨-, ⟨e, he, hl, ht⟩ | ⟨he, ht⟩⟩ := telemetry_step h a
  · rw [ht, Telemetry.hasRule_reset, hk]
    simp [load?, recordedIds]
  · rw [hl, Option.toList_none, List.append_nil]
    cases a with
    | record a =>
      cases he
      rw [ht, Event.attempts, Telemetry.recordAll_singleton, Telemetry.hasRule_record, hk]
      simp [recordedIds, or_assoc]
    | evaluate engine worker ctx times =>
      obtain ⟨-, he⟩ := Option.ite_none_right_eq_some.1 he
      cases he
      -- a pass tries rules in force, and these were published
      have hknown : ∀ a ∈ attemptsOf times (outcomes s.book.store.current.ruleset ctx),
          s.book.store.telemetry.HasRule a.ruleId := by
        intro a ha
        simp only [attemptsOf, outcomes, List.map_map, List.mem_map] at ha
        obtain ⟨r, hm, rfl⟩ := ha
        exact (hk _).2 (.inl (mem_publishedIds hr (List.mem_of_mem_filter hm)))
      have hnone : recordedIds [.evaluate engine worker ctx times] = [] := rfl
      rw [ht, Event.attempts, Telemetry.hasRule_recordAll _ hknown, hk, hnone, List.append_nil]
    | _ => cases he
  · have hnone : recordedIds [a] = [] := by
      cases a with
      | record a => cases he
      | _ => rfl
    rw [ht, Telemetry.hasRule_register, hk, publishedIds_append, hnone, List.append_nil, List.mem_append]
    exact or_right_comm

/-- After any actions, the rules that have statistics are those that were published or recorded. -/
theorem hasRule_run (as : List Action) : ∀ {s : Session} {past : List LoadResult} {recorded : List String},
    s.Coherent → s.book.Reflects past →
    (∀ id, s.book.store.telemetry.HasRule id ↔ id ∈ publishedIds past ∨ id ∈ recorded) →
    ∀ id, (s.run as).book.store.telemetry.HasRule id ↔
      id ∈ publishedIds (past ++ s.loads as) ∨ id ∈ recorded ++ recordedIds as := by
  induction as with
  | nil =>
    intro s past recorded _ _ hk id
    simpa [loads, recordedIds] using hk id
  | cons a as ih =>
    intro s past recorded h hr hk id
    have hstep := ih (h.step a) (hr.moves (s.moves_step a)) (hasRule_step h hr hk a) id
    have hrec : recordedIds (a :: as) = recordedIds [a] ++ recordedIds as :=
      List.filterMap_append (l := [a])
    rw [hrec, loads, ← List.append_assoc, ← List.append_assoc]
    exact hstep

end Session

end FraudScreen.Rules
