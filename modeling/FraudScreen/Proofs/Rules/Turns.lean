import FraudScreen.Proofs.Rules.WorkerCaches

/-!
# Workers that take turns

A `Session` knows no evaluation under way, and the caches for an engine that is dropped are gone at once. Workers side by
side whose evaluations are finished as soon as they begin do the same: `Crew.Mirrors` relates the two, and every action
keeps the relation (`Crew.mirrors_run`), whichever worker drops an engine. So they have the same answers and the same
compiled rules for every engine that is there (`Crew.Mirrors.evaluate`, `Crew.Mirrors.cachedRules`).
-/
namespace FraudScreen.Rules

/-- The events of an action. If it drops an engine, it is `dropper` who does. -/
def Session.Action.events (dropper : Nat) : Session.Action → List Crew.Event
  | .evaluate engine worker ctx times => [.begin engine worker ctx, .finish worker times]
  | .clearCache engine worker => [.clearCache engine worker]
  | .addEngine => [.addEngine]
  | .dropEngine engine => [.dropEngine engine dropper]
  | a => [.book a]

/-! ## The caches of a session -/

namespace Caches

variable (cs : Caches) (engine worker engine' worker' : Nat)

theorem get_clear : (cs.clear engine' worker').get engine worker =
    if engine = engine' ∧ worker = worker' then .empty else cs.get engine worker := by
  have hl : (cs.clear engine' worker').lookup (engine, worker) =
      if (engine, worker) ≠ (engine', worker') then cs.lookup (engine, worker) else none :=
    lookup_filter_fst (· ≠ (engine', worker')) (engine, worker) cs
  unfold get
  rw [hl]
  by_cases h : engine = engine' ∧ worker = worker' <;> simp [h]

theorem get_set (c : Cache) : (cs.set engine' worker' c).get engine worker =
    if engine = engine' ∧ worker = worker' then c else cs.get engine worker := by
  by_cases h : engine = engine' ∧ worker = worker'
  · obtain ⟨rfl, rfl⟩ := h
    simp [set, get]
  · have hne : ((engine, worker) == (engine', worker')) = false := by simpa using h
    have hs : (cs.set engine' worker' c).get engine worker = (cs.clear engine' worker').get engine worker := by
      simp [set, get, List.lookup_cons, hne]
    rw [hs, get_clear, if_neg h, if_neg h]

theorem get_release : (cs.release engine').get engine worker =
    if engine = engine' then .empty else cs.get engine worker := by
  have hl : (cs.release engine').lookup (engine, worker) =
      if engine ≠ engine' then cs.lookup (engine, worker) else none :=
    lookup_filter_fst (fun i : Nat × Nat => i.1 ≠ engine') (engine, worker) cs
  unfold get
  rw [hl]
  by_cases h : engine = engine' <;> simp [h]

end Caches

namespace Crew

/-- The workers of a session, none of them in an evaluation. Of dropped engines they may keep more than the session. -/
structure Mirrors (c : Crew) (s : Session) : Prop where
  book : c.book = s.book
  engines : c.engines = s.engines
  nextEngine : c.nextEngine = s.nextEngine
  underway : c.underway = []
  older : ∀ engine ∈ s.engines, engine < s.nextEngine
  caches : ∀ engine ∈ s.engines, ∀ worker, (c.workers worker).cache engine = s.caches.get engine worker
  /-- There is nothing yet for engines to come. -/
  unused : ∀ engine, s.nextEngine ≤ engine → ∀ worker,
    (c.workers worker).cache engine = .empty ∧ s.caches.get engine worker = .empty

variable {c : Crew} {s : Session}

theorem mirrors_start (o : Origin) : (start o).Mirrors (.start o) := by
  refine ⟨rfl, rfl, rfl, rfl, ?_, fun _ _ _ => rfl, fun _ _ _ => ⟨rfl, rfl⟩⟩
  simp [Session.start]

theorem Mirrors.cachedRules (h : c.Mirrors s) {engine : Nat} (he : engine ∈ s.engines) (worker : Nat) :
    c.cachedRules engine worker = s.cachedRules engine worker :=
  congrArg Cache.size (h.caches engine he worker)

theorem Mirrors.isFree (h : c.Mirrors s) (worker : Nat) : c.isFree worker = true := by
  simp [Crew.isFree, evaluation?, h.underway]

theorem Mirrors.isIdle (h : c.Mirrors s) (engine : Nat) : c.isIdle engine = true := by
  simp [Crew.isIdle, h.underway]

/-- What happens to the rulebook alone happens to both. -/
theorem Mirrors.after (h : c.Mirrors s) {a : Session.Action} (hs : s.step a = { s with book := s.book.after a }) :
    (c.step (.book a)).Mirrors (s.step a) := by
  rw [hs]
  exact ⟨congrArg (Rulebook.after · a) h.book, h.engines, h.nextEngine, h.underway, h.older, h.caches, h.unused⟩

theorem Mirrors.clearCache (h : c.Mirrors s) (engine worker : Nat) :
    (c.clearCache engine worker).Mirrors (s.clearCache engine worker) := by
  refine ⟨h.book, h.engines, h.nextEngine, h.underway, h.older, fun e he w => ?_, fun e he w => ?_⟩
  · rw [cache_clearCache, Session.clearCache, Caches.get_clear, h.caches e he w]
  · obtain ⟨hc, hs⟩ := h.unused e he w
    simp [cache_clearCache, Session.clearCache, Caches.get_clear, hc, hs]

theorem Mirrors.addEngine (h : c.Mirrors s) : c.addEngine.Mirrors s.addEngine := by
  refine ⟨h.book, ?_, ?_, h.underway, fun e he => ?_, fun e he w => ?_, fun e he w => ?_⟩
  · simp [Crew.addEngine, Session.addEngine, h.engines, h.nextEngine]
  · simp [Crew.addEngine, Session.addEngine, h.nextEngine]
  · rcases List.mem_append.1 he with he | he
    · exact Nat.lt_succ_of_lt (h.older e he)
    · exact List.mem_singleton.1 he ▸ Nat.lt_succ_self _
  · rcases List.mem_append.1 he with he | he
    · exact h.caches e he w
    · -- the new engine has nothing in either
      obtain ⟨hc, hs⟩ := h.unused e (Nat.le_of_eq (List.mem_singleton.1 he).symm) w
      exact hc.trans hs.symm
  · exact h.unused e (Nat.le_of_succ_le he) w

theorem Mirrors.dropEngine (h : c.Mirrors s) (engine dropper : Nat) :
    (c.dropEngine engine dropper).Mirrors (s.dropEngine engine) := by
  have hcache : ∀ e w, e ≠ engine →
      ((c.dropEngine engine dropper).workers w).cache e = (c.workers w).cache e ∧
        (s.dropEngine engine).caches.get e w = s.caches.get e w := by
    intro e w hne
    refine ⟨(cache_clearCache ..).trans (if_neg fun hc => hne hc.1), ?_⟩
    rw [Session.dropEngine, Caches.get_release, if_neg hne]
  refine ⟨h.book, ?_, h.nextEngine, h.underway, fun e he => ?_, fun e he w => ?_, fun e he w => ?_⟩
  · simp [Crew.dropEngine, Session.dropEngine, h.engines]
  · exact h.older e (List.mem_filter.1 he).1
  · obtain ⟨he, hne⟩ := List.mem_filter.1 he
    obtain ⟨hc, hs⟩ := hcache e w (of_decide_eq_true hne)
    rw [hc, hs, h.caches e he w]
  · obtain ⟨hc, hs⟩ := h.unused e he w
    refine ⟨(cache_clearCache ..).trans ?_, ?_⟩
    · rw [hc, ite_self]
    · rw [Session.dropEngine, Caches.get_release, hs, ite_self]

/-- For an engine that is not there, workers have nothing to do. -/
theorem Mirrors.dropEngine_absent (h : c.Mirrors s) {engine : Nat} (hout : engine ∉ s.engines) :
    c.Mirrors (s.dropEngine engine) := by
  have hengines : (s.dropEngine engine).engines = s.engines :=
    List.filter_eq_self.2 fun e he => decide_eq_true fun heq => hout (heq ▸ he)
  refine ⟨h.book, hengines ▸ h.engines, h.nextEngine, h.underway, hengines ▸ h.older, fun e he w => ?_,
    fun e he w => ?_⟩
  · rw [hengines] at he
    have hne : e ≠ engine := fun heq => hout (heq ▸ he)
    rw [Session.dropEngine, Caches.get_release, if_neg hne, h.caches e he w]
  · obtain ⟨hc, hs⟩ := h.unused e he w
    refine ⟨hc, ?_⟩
    rw [Session.dropEngine, Caches.get_release, hs, ite_self]

/-- A pass takes and leaves the same cache in both. -/
theorem Mirrors.pass (h : c.Mirrors s) {e : Evaluation} (he : e.engine ∈ s.engines) (b : Rulebook) :
    let found := (c.workers e.worker).pass c.drops c.engines e
    let run := (s.caches.get e.engine e.worker).run e.published e.ctx
    found.2 = run.2 ∧ Mirrors { c.assign e.worker found.1 with book := b }
      { s with book := b, caches := s.caches.set e.engine e.worker run.1 } := by
  intro found run
  have hprune : ∀ engine ∈ s.engines, ((c.workers e.worker).prune c.drops c.engines).cache engine =
      s.caches.get engine e.worker := by
    intro engine hin
    have hthere : engine ∈ c.engines := h.engines ▸ hin
    exact (((c.workers e.worker).cache_prune ..).resolve_right fun hout => hout.1 hthere).trans
      (h.caches engine hin e.worker)
  have hrun : ((((c.workers e.worker).prune c.drops c.engines).cache e.engine).run e.published e.ctx) = run := by
    rw [hprune _ he]
  refine ⟨congrArg Prod.snd hrun, rfl, h.engines, h.nextEngine, h.underway, h.older, fun engine hin w => ?_,
    fun engine hnew w => ?_⟩
  · simp only [workers_assign, Caches.get_set]
    by_cases hw : w = e.worker
    · subst hw
      simp only [found, if_true, and_true, Worker.cache_pass, hrun, hprune engine hin]
    · simp only [hw, if_false, and_false, h.caches engine hin w]
  · obtain ⟨hc, hs⟩ := h.unused engine hnew w
    have hne : engine ≠ e.engine := fun heq => absurd (h.older _ he) (Nat.not_lt_of_le (heq ▸ hnew))
    simp only [workers_assign, Caches.get_set, hne, false_and, if_false, hs, and_true]
    split
    · rename_i hw
      subst hw
      rw [Worker.cache_pass, if_neg hne]
      exact ((c.workers e.worker).cache_prune ..).elim (fun hp => hp.trans hc) fun hp => hp.2
    · exact hc

/-- Both steps of an evaluation in one, when no other is under way. -/
theorem finish_begin (h : c.underway = []) (engine worker : Nat) (ctx : Context) (times : Times) :
    (c.begin engine worker ctx).finish worker times =
      let p := c.book.store.current
      let found := (c.workers worker).pass c.drops c.engines ⟨worker, engine, ctx, p⟩
      if p.admits ctx then
        let after := c.book.store.finishPass p.ruleset.version times found.2
        ({ c.assign worker found.1 with book := { c.book with store := after.1 } }, after.2)
      else (c, some .empty) := by
  have hbegin : (c.begin engine worker ctx).evaluation? worker =
      some ⟨worker, engine, ctx, c.book.store.current⟩ :=
    List.find?_cons_of_pos (decide_eq_true rfl)
  have hend : (c.begin engine worker ctx).endEvaluation worker = c := by
    cases c
    subst h
    simp [begin, endEvaluation]
  simp only [finish, hbegin, hend]
  rfl

/-- **An evaluation** that is finished as soon as it begins does what an evaluation of the session does, and has the same
answer. -/
theorem Mirrors.evaluate (h : c.Mirrors s) {engine : Nat} (he : engine ∈ s.engines) (worker : Nat) (ctx : Context)
    (times : Times) :
    let after := (c.begin engine worker ctx).finish worker times
    after.1.Mirrors (s.evaluate engine worker ctx times).1 ∧ after.2 = (s.evaluate engine worker ctx times).2 := by
  have hpass (b : Rulebook) := h.pass (e := ⟨worker, engine, ctx, s.book.store.current⟩) he b
  obtain ⟨hfound, -⟩ := hpass s.book
  rw [finish_begin h.underway, Session.evaluate]
  simp only [h.book, hfound]
  split
  · exact ⟨(hpass _).2, rfl⟩
  · exact ⟨h, rfl⟩

/-- **One action.** Whichever worker drops engines, its events do what the action does. -/
theorem Mirrors.step (h : c.Mirrors s) (a : Session.Action) (dropper : Nat) :
    (c.run (a.events dropper)).Mirrors (s.step a) := by
  cases a with
  | evaluate engine worker ctx times =>
    simp only [Session.Action.events, run_cons, run_nil, Session.step]
    by_cases he : engine ∈ s.engines
    · have hin : engine ∈ c.engines := h.engines ▸ he
      rw [if_pos he, Crew.step, if_pos ⟨hin, h.isFree worker⟩]
      exact (h.evaluate he worker ctx times).1
    · have hout : engine ∉ c.engines := h.engines ▸ he
      have hnone : c.evaluation? worker = none := Option.isNone_iff_eq_none.1 (h.isFree worker)
      rw [if_neg he, Crew.step, if_neg fun hb => hout hb.1]
      simpa only [Crew.step, finish, hnone] using h
  | clearCache engine worker =>
    simp only [Session.Action.events, run_cons, run_nil, Session.step, Crew.step, h.engines, h.isFree, and_true]
    split
    · exact h.clearCache engine worker
    · exact h
  | dropEngine engine =>
    simp only [Session.Action.events, run_cons, run_nil, Session.step, Crew.step, h.engines, h.isFree, h.isIdle,
      and_true]
    split
    · exact h.dropEngine engine dropper
    · rename_i hout
      exact h.dropEngine_absent hout
  | addEngine => exact h.addEngine
  | enablePolling interval observer =>
    refine h.after ?_
    simp only [Rulebook.after, Session.step]
    split <;> rfl
  | replace | write | setOffline | reload | record | resetTelemetry | disablePolling | poll => exact h.after rfl

/-- **Workers that take turns do what a session does**, whatever the actions are and whoever drops engines. -/
theorem mirrors_run (turns : List (Session.Action × Nat)) : ∀ {c : Crew} {s : Session}, c.Mirrors s →
    (c.run (turns.flatMap fun t => t.1.events t.2)).Mirrors (s.run (turns.map (·.1))) := by
  induction turns with
  | nil => exact fun h => h
  | cons t turns ih =>
    intro c s h
    rw [List.flatMap_cons, run_append]
    exact ih (h.step t.1 t.2)

end Crew

end FraudScreen.Rules
