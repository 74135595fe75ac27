import FraudScreen.Proofs.Rules.Counting
import FraudScreen.Proofs.Rules.Publication

/-!
# Caches cannot be observed

A worker keeps compiled rules and a table of bindings from one evaluation to the next. `Cache.Faithful` says
what it may keep: a table that binding replaces completely, and compiled rules of which those with the number
of the publication in force are what its rules compile to. Loading, evaluating, clearing and dropping keep
every cache of a session faithful (`Session.Coherent`). So an evaluation gives what `pass` gives, which knows
of no cache, unless statistics cannot take up its times any more: `Session.evaluate_run_eq_pass`.
-/
namespace FraudScreen.Rules

/-- What a cache may hold while `p` is in force: no entry is newer than `p`, and those of `p` are compiled
from its rules. -/
structure Cache.Faithful (p : Published) (c : Cache) : Prop where
  table : IsContextTable c.bindings
  notNewer : ∀ id entry, (id, entry) ∈ c.compiled → entry.generation ≤ p.generation
  compiled : ∀ id entry, (id, entry) ∈ c.compiled → entry.generation = p.generation →
    ∃ r ∈ p.ruleset.rules, r.id = id ∧ Expr.compile r.expression = .ok entry.node

namespace Cache

variable {p : Published} {c : Cache}

theorem Faithful.ofNoEntries {b : Expr.Bindings} {g : Nat} (h : IsContextTable b) :
    Faithful p ⟨g, b, []⟩ :=
  ⟨h, by simp, by simp⟩

theorem faithful_empty : empty.Faithful p := .ofNoEntries (.inl rfl)

/-- A later publication finds no entries of its own. -/
theorem Faithful.publish {q : Published} (h : c.Faithful p) (hpq : p.generation < q.generation) :
    c.Faithful q := by
  refine ⟨h.table, ?_, ?_⟩
  · intro id entry hm
    have := h.notNewer id entry hm
    omega
  · intro id entry hm he
    have := h.notNewer id entry hm
    omega

theorem Faithful.forGeneration (h : c.Faithful p) (g : Nat) : (c.forGeneration g).Faithful p := by
  unfold Cache.forGeneration
  split
  · exact h
  · exact .ofNoEntries (.inl rfl)

/-- The table of a worker that is about to evaluate a context holds this context and nothing else. -/
theorem Faithful.bindings_rebind (h : c.Faithful p) (ctx : Context) :
    (c.rebind ctx).bindings = (ctx.bind []).1 := by
  simp [rebind, ctx.bind_eq_values h.table, ctx.bind_eq_values (.inl rfl)]

theorem Faithful.rebind (h : c.Faithful p) (ctx : Context) : (c.rebind ctx).Faithful p := by
  have e : c.rebind ctx = { c with bindings := ctx.values } := by
    simp [Cache.rebind, ctx.bind_eq_values h.table]
  rw [e]
  exact ⟨ctx.isContextTable_values, h.notNewer, h.compiled⟩

/-! ## One rule -/

/-- Forgetting an entry does no harm. -/
theorem Faithful.forget (h : c.Faithful p) (id : String) :
    Faithful p { c with compiled := c.compiled.filter (·.1 ≠ id) } := by
  refine ⟨h.table, ?_, ?_⟩
  · intro i entry hm
    exact h.notNewer i entry (List.mem_of_mem_filter hm)
  · intro i entry hm
    exact h.compiled i entry (List.mem_of_mem_filter hm)

/-- Keeping what a rule of the publication in force compiles to does no harm. -/
theorem Faithful.keep (h : c.Faithful p) {r : Rule} (hr : r ∈ p.ruleset.rules) {n : Expr.Node}
    (hn : Expr.compile r.expression = .ok n) :
    Faithful p { c with compiled := (r.id, ⟨p.generation, n⟩) :: c.compiled } := by
  refine ⟨h.table, ?_, ?_⟩
  · intro id entry hm
    rcases List.mem_cons.1 hm with e | hm
    · cases e
      exact Nat.le_refl _
    · exact h.notNewer id entry hm
  · intro id entry hm he
    rcases List.mem_cons.1 hm with e | hm
    · cases e
      exact ⟨r, hr, rfl, hn⟩
    · exact h.compiled id entry hm he

/-- An entry that a faithful cache finds for a rule is what the rule compiles to. -/
theorem Faithful.compile_of_found (h : c.Faithful p) (hp : p.ruleset.IdsUnique) {r : Rule}
    (hr : r ∈ p.ruleset.rules) {entry : Compiled}
    (hf : (c.compiled.lookup r.id).filter (·.generation = p.generation) = some entry) :
    Expr.compile r.expression = .ok entry.node := by
  simp only [Option.filter_eq_some_iff, decide_eq_true_eq] at hf
  obtain ⟨hl, hg⟩ := hf
  obtain ⟨front, back, hc, _⟩ := List.lookup_eq_some_iff.1 hl
  obtain ⟨r', hr', hid, hn⟩ := h.compiled r.id entry (by simp [hc]) hg
  rwa [hp.eq_of_id_eq hr' hr hid] at hn

/-- **One rule.** Whether it was compiled before or not, a rule has the outcome that it has when it is compiled
anew, and the cache stays faithful with the same table. -/
theorem Faithful.evaluate (h : c.Faithful p) (hp : p.ruleset.IdsUnique) {r : Rule}
    (hr : r ∈ p.ruleset.rules) :
    (c.evaluate p.generation r).2 = r.outcome c.bindings ∧
      (c.evaluate p.generation r).1.Faithful p ∧
      (c.evaluate p.generation r).1.bindings = c.bindings := by
  unfold Cache.evaluate
  split
  · rename_i entry hf
    simp [Rule.outcome, h.compile_of_found hp hr hf, h]
  · split
    · rename_i e hn
      exact ⟨by simp [Rule.outcome, hn], h.forget r.id, rfl⟩
    · rename_i n hn
      dsimp only
      split
      · exact ⟨by simp [Rule.outcome, hn], h.forget r.id, rfl⟩
      · exact ⟨by simp [Rule.outcome, hn], (h.forget r.id).keep hr hn, rfl⟩

/-! ## A whole pass -/

/-- Rules evaluated one after another crash if one of them would, and otherwise have the outcomes that they
have when compiled anew. -/
theorem Faithful.evaluateAll (hp : p.ruleset.IdsUnique) :
    ∀ {c : Cache} (rules : List Rule), c.Faithful p → (∀ r ∈ rules, r ∈ p.ruleset.rules) →
      let os := rules.map fun r => (r, r.outcome c.bindings)
      let found := c.evaluateAll p.generation rules
      found.1.Faithful p ∧ found.2.any (·.2.isCrash) = os.any (·.2.isCrash) ∧
        (os.any (·.2.isCrash) = false → found.2 = os)
  | c, [], h, _ => by simp [Cache.evaluateAll, h]
  | c, r :: rest, h, hr => by
    obtain ⟨ho, hc, hb⟩ := h.evaluate hp (hr r (List.mem_cons_self ..))
    simp only [Cache.evaluateAll]
    split
    · rename_i hcrash
      rw [ho] at hcrash
      simp [hc, ho, hcrash]
    · rename_i hcrash
      rw [ho] at hcrash
      obtain ⟨hf, hany, heq⟩ :=
        Faithful.evaluateAll hp rest hc fun r' hr' => hr r' (List.mem_cons_of_mem _ hr')
      rw [hb] at hany heq
      refine ⟨hf, ?_, fun hno => ?_⟩
      · simp [ho, hcrash, hany]
      · simp only [List.map_cons, List.any_cons, Bool.or_eq_false_iff] at hno
        simp [ho, heq hno.2]

/-- **A pass.** It crashes if the pass without a cache does, and otherwise has the same outcomes. -/
theorem Faithful.run (h : c.Faithful p) (hp : p.ruleset.IdsUnique) (ctx : Context) :
    (c.run p ctx).1.Faithful p ∧
      (c.run p ctx).2.any (·.2.isCrash) = (outcomes p.ruleset ctx).any (·.2.isCrash) ∧
      ((outcomes p.ruleset ctx).any (·.2.isCrash) = false → (c.run p ctx).2 = outcomes p.ruleset ctx) := by
  have hg := h.forGeneration p.generation
  have hr := Faithful.evaluateAll hp p.ruleset.enabledRules (hg.rebind ctx)
    fun r hr => List.mem_of_mem_filter hr
  rw [hg.bindings_rebind ctx] at hr
  exact hr

end Cache

/-! ## The end of a pass -/

namespace Store

/-- The rules take times for a context that the statistics cannot take up one after another. -/
def overruns (s : Store) (p : Published) (ctx : Context) (times : Times) : Bool :=
  p.admits ctx && !s.telemetry.fitsAll (attemptsOf times (outcomes p.ruleset ctx))

theorem overruns_zero (s : Store) (p : Published) (ctx : Context) : s.overruns p ctx .zero = false := by
  have hfits := Telemetry.fitsAll_of_zero (attemptsOf .zero (outcomes p.ruleset ctx)) s.telemetry fun a ha => by
    obtain ⟨x, -, rfl⟩ := List.mem_map.1 ha
    rfl
  rw [overruns, hfits, Bool.not_true, Bool.and_false]

/-- Only a pass without a crash is looked at any closer. -/
theorem finishPass_congr {os found : List (Rule × Outcome)} (s : Store) (version : String) (times : Times)
    (hany : found.any (·.2.isCrash) = os.any (·.2.isCrash)) (heq : os.any (·.2.isCrash) = false → found = os) :
    s.finishPass version times found = s.finishPass version times os := by
  cases hcrash : os.any (·.2.isCrash) with
  | true =>
    rw [hcrash] at hany
    simp only [finishPass, hany, hcrash, if_true]
  | false => rw [heq hcrash]

/-- A pass that is made ends with the result of the pass that keeps no statistics, or with none. -/
theorem finishPass_outcomes {p : Published} {ctx : Context} (ha : p.admits ctx = true) (s : Store) (times : Times) :
    (s.finishPass p.ruleset.version times (outcomes p.ruleset ctx)).2 =
      if s.overruns p ctx times then none else pass p ctx := by
  simp only [finishPass, pass, overruns, ha, Bool.true_and, if_true]
  cases (outcomes p.ruleset ctx).any (·.2.isCrash) <;>
    cases s.telemetry.fitsAll (attemptsOf times (outcomes p.ruleset ctx)) <;> rfl

end Store

/-! ## All caches of a session -/

namespace Caches

theorem get_cases (cs : Caches) (engine worker : Nat) :
    cs.get engine worker = .empty ∨ ((engine, worker), cs.get engine worker) ∈ cs := by
  unfold get
  cases h : cs.lookup (engine, worker) with
  | none => exact .inl rfl
  | some c =>
    obtain ⟨front, back, hc, _⟩ := List.lookup_eq_some_iff.1 h
    right
    rw [hc]
    simp

end Caches

namespace Session

/-- Every cache of the session is faithful to the publication in force. -/
structure Coherent (s : Session) : Prop where
  numbered : s.book.store.Numbered
  faithful : ∀ key c, (key, c) ∈ s.caches → Cache.Faithful s.book.store.current c

variable {s : Session}

theorem Coherent.get (h : s.Coherent) (engine worker : Nat) :
    (s.caches.get engine worker).Faithful s.book.store.current := by
  rcases s.caches.get_cases engine worker with e | hm
  · rw [e]
    exact Cache.faithful_empty
  · exact h.faithful _ _ hm

theorem coherent_start (o : Origin) : (start o).Coherent :=
  ⟨Store.numbered_empty, by simp [start]⟩

/-- What leaves the store as it is keeps the session coherent, as long as it adds no caches. -/
theorem Coherent.restrict {t : Session} (h : s.Coherent) (hc : t.book.store.current = s.book.store.current)
    (hp : t.book.store.publications = s.book.store.publications)
    (hcs : ∀ key c, (key, c) ∈ t.caches → (key, c) ∈ s.caches) : t.Coherent := by
  refine ⟨⟨?_, ?_⟩, ?_⟩
  · rw [hc, hp]
    exact h.numbered.generation
  · rw [hc]
    exact h.numbered.ids
  · intro key c hm
    rw [hc]
    exact h.faithful key c (hcs key c hm)

/-- A load keeps the session coherent: what it publishes is newer than every entry of every cache. -/
theorem Coherent.load {t : Session} (h : s.Coherent) (source : Source)
    (hb : t.book.store = (s.book.store.reload source).1) (hcs : t.caches = s.caches) : t.Coherent := by
  refine ⟨hb ▸ h.numbered.reload source, fun key c hm => ?_⟩
  rw [hcs] at hm
  have hf := h.faithful key c hm
  obtain ⟨r, _, e⟩ | ⟨_, _, e⟩ := s.book.store.reload_cases source
  · rw [hb, e]
    refine hf.publish ?_
    have := h.numbered.generation
    simp only [Store.remember, Store.publish]
    omega
  · rw [hb, e]
    exact hf

/-- The store after an evaluation, and the answer, if a pass is made. -/
theorem Coherent.evaluate_of_admits (h : s.Coherent) {ctx : Context}
    (ha : s.book.store.current.admits ctx = true) (engine worker : Nat) (times : Times) :
    let p := s.book.store.current
    let after := s.book.store.finishPass p.ruleset.version times (outcomes p.ruleset ctx)
    s.evaluate engine worker ctx times =
      ({ s with
        book := { s.book with store := after.1 }
        caches := s.caches.set engine worker ((s.caches.get engine worker).run p ctx).1 }, after.2) := by
  obtain ⟨-, hany, heq⟩ := (h.get engine worker).run h.numbered.ids ctx
  simp only [Session.evaluate, ha, if_true, s.book.store.finishPass_congr _ times hany heq]

/-- **An evaluation** gives what the pass without caches gives, if its times can be counted, and keeps the session
coherent. -/
theorem Coherent.evaluate (h : s.Coherent) (engine worker : Nat) (ctx : Context) (times : Times) :
    let p := s.book.store.current
    (s.evaluate engine worker ctx times).1.Coherent ∧
      (s.evaluate engine worker ctx times).2 =
        if s.book.store.overruns p ctx times then none else pass p ctx := by
  intro p
  cases ha : p.admits ctx with
  | true =>
    obtain ⟨hf, -, -⟩ := (h.get engine worker).run h.numbered.ids ctx
    obtain ⟨t, ht⟩ := s.book.store.exists_finishPass p.ruleset.version times (outcomes p.ruleset ctx)
    rw [h.evaluate_of_admits ha]
    refine ⟨⟨?_, fun key c hm => ?_⟩, Store.finishPass_outcomes ha ..⟩
    · dsimp only
      rw [ht]
      exact ⟨h.numbered.generation, h.numbered.ids⟩
    · dsimp only
      rw [ht]
      rcases List.mem_cons.1 hm with e | hm
      · cases e
        exact hf
      · exact h.faithful key c (List.mem_of_mem_filter hm)
  | false =>
    have he : s.evaluate engine worker ctx times = (s, some .empty) := by simp [Session.evaluate, ha, p]
    rw [he]
    exact ⟨h, by simp [Store.overruns, pass, ha]⟩

/-- Every action keeps the session coherent. -/
theorem Coherent.step (h : s.Coherent) (a : Action) : (s.step a).Coherent := by
  cases a with
  | replace d => exact h.restrict rfl rfl fun _ _ hm => hm
  | write content => exact h.restrict rfl rfl fun _ _ hm => hm
  | setOffline document marker => exact h.restrict rfl rfl fun _ _ hm => hm
  | reload => exact h.load s.book.source rfl rfl
  | evaluate engine worker ctx times =>
    simp only [Session.step]
    split
    · exact (h.evaluate engine worker ctx times).1
    · exact h
  | clearCache engine worker =>
    simp only [Session.step]
    split
    · exact h.restrict rfl rfl fun _ _ hm => List.mem_of_mem_filter hm
    · exact h
  | addEngine => exact h.restrict rfl rfl fun _ _ hm => hm
  | dropEngine engine => exact h.restrict rfl rfl fun _ _ hm => List.mem_of_mem_filter hm
  | record a => exact h.restrict rfl rfl fun _ _ hm => hm
  | resetTelemetry => exact h.restrict rfl rfl fun _ _ hm => hm
  | enablePolling interval observer =>
    simp only [Session.step]
    split
    · rename_i book hb
      unfold Rulebook.enablePolling at hb
      repeat' split at hb
      all_goals cases hb
      exact h.restrict rfl rfl fun _ _ hm => hm
    · exact h
  | disablePolling => exact h.restrict rfl rfl fun _ _ hm => hm
  | poll =>
    rcases s.book.poll_store with e | e
    · exact h.restrict (by simp only [Session.step, e]) (by simp only [Session.step, e]) fun _ _ hm => hm
    · exact h.load s.book.source e rfl

theorem Coherent.run (as : List Action) : ∀ {s : Session}, s.Coherent → (s.run as).Coherent := by
  induction as with
  | nil =>
    intro s h
    exact h
  | cons a as ih =>
    intro s h
    exact ih (h.step a)

/-- **Caches cannot be observed.** After any actions whatever, an evaluation by any worker of any engine, with rules
that take any times, gives what the pass without caches gives for the rule set in force, unless it gives no answer
because statistics cannot take up its times any more. -/
theorem evaluate_run_eq_pass (o : Origin) (as : List Action) (engine worker : Nat) (ctx : Context) (times : Times) :
    let s := (start o).run as
    let p := s.book.store.current
    (s.evaluate engine worker ctx times).2 = if s.book.store.overruns p ctx times then none else pass p ctx := by
  have hc : ((start o).run as).Coherent := (coherent_start o).run as
  exact (hc.evaluate engine worker ctx times).2

end Session

end FraudScreen.Rules
