import FraudScreen.Proofs.Rules.Publication
import FraudScreen.Rules.Crew

/-!
# Caches of workers are kept apart

Every worker has a cache of its own for every engine. An event (`Crew.Steps` says all that it can do) changes the cache
of a worker for an engine that is there only if this worker makes a pass for this engine or clears that very cache
(`Crew.Spares.cache_step`): what is released when engines were dropped is never the cache for an engine that is there.
And it is released soon enough: once a worker has made a pass, it keeps no cache for an engine that is not there
(`Crew.engine_mem_of_pass`).
-/
namespace FraudScreen.Rules

/-- What is left out by name is not found, and all else is found as before. -/
theorem lookup_filter_fst {α β : Type} [BEq α] [LawfulBEq α] (P : α → Prop) [DecidablePred P] (x : α) :
    ∀ l : List (α × β), (l.filter fun e => P e.1).lookup x = if P x then l.lookup x else none
  | [] => by simp
  | (y, v) :: l => by
    rw [List.filter_cons]
    cases hx : x == y with
    | true =>
      obtain rfl : x = y := eq_of_beq hx
      by_cases hp : P x <;> simp [hp, lookup_filter_fst P x l]
    | false => by_cases hp : P y <;> simp [List.lookup_cons, hx, hp, lookup_filter_fst P x l]

/-! ## The caches of one worker -/

namespace Worker

variable (w : Worker) {engine other : Nat}

theorem cache_discard : (w.discard other).cache engine = if engine = other then .empty else w.cache engine := by
  have hl : (w.discard other).caches.lookup engine = if engine ≠ other then w.caches.lookup engine else none :=
    lookup_filter_fst (· ≠ other) engine w.caches
  unfold cache
  rw [hl]
  by_cases h : engine = other <;> simp [h]

theorem cache_keep (c : Cache) : (w.keep other c).cache engine = if engine = other then c else w.cache engine := by
  by_cases h : engine = other
  · simp [keep, cache, h]
  · have hne : (engine == other) = false := beq_false_of_ne h
    have hk : (w.keep other c).cache engine = (w.discard other).cache engine := by
      simp [keep, cache, List.lookup_cons, hne]
    rw [hk, cache_discard, if_neg h, if_neg h]

/-- Pruning leaves a cache as it is or takes it away, and this only if its engine is not there. -/
theorem cache_prune (drops : Nat) (engines : List Nat) (engine : Nat) :
    (w.prune drops engines).cache engine = w.cache engine ∨
    engine ∉ engines ∧ (w.prune drops engines).cache engine = .empty := by
  have hl : (w.caches.filter (·.1 ∈ engines)).lookup engine =
      if engine ∈ engines then w.caches.lookup engine else none :=
    lookup_filter_fst (· ∈ engines) engine w.caches
  unfold prune cache
  split
  · exact .inl rfl
  · rw [hl]
    by_cases h : engine ∈ engines
    · exact .inl (by simp [h])
    · exact .inr ⟨h, by simp [h]⟩

theorem cache_pass (drops : Nat) (engines : List Nat) (e : Evaluation) (engine : Nat) :
    (w.pass drops engines e).1.cache engine =
      if engine = e.engine then (((w.prune drops engines).cache e.engine).run e.published e.ctx).1
      else (w.prune drops engines).cache engine :=
  cache_keep ..

theorem epoch_pass (drops : Nat) (engines : List Nat) (e : Evaluation) : (w.pass drops engines e).1.epoch = drops := by
  show (w.prune drops engines).epoch = drops
  unfold prune
  split
  · assumption
  · rfl

/-- A pass leaves caches only for engines that are there, if a worker that knows of all drops had no others. -/
theorem engine_mem_pass {drops : Nat} {engines : List Nat} {e : Evaluation}
    (h : w.epoch = drops → ∀ x ∈ w.caches, x.1 ∈ engines) (he : e.engine ∈ engines) :
    ∀ x ∈ (w.pass drops engines e).1.caches, x.1 ∈ engines := by
  intro x hx
  have hprune : ∀ x ∈ (w.prune drops engines).caches, x.1 ∈ engines := by
    unfold prune
    split
    · rename_i hd
      exact h hd
    · exact fun x hx => of_decide_eq_true (List.mem_filter.1 hx).2
  rcases List.mem_cons.1 hx with rfl | hx
  · exact he
  · exact hprune x ((List.mem_filter.1 hx).1)

end Worker

/-! ## What events can do -/

namespace Crew

variable {c : Crew}

theorem workers_assign (c : Crew) (worker i : Nat) (w : Worker) :
    (c.assign worker w).workers i = if i = worker then w else c.workers i := rfl

theorem mem_of_evaluation? {worker : Nat} {e : Evaluation} (h : c.evaluation? worker = some e) :
    e ∈ c.underway ∧ e.worker = worker :=
  ⟨List.mem_of_find?_eq_some h, by simpa using List.find?_some h⟩

/-- Everything that the second step of an evaluation can do. -/
inductive Finishes (c : Crew) (worker : Nat) : Crew → Prop where
  | nothing (h : c.evaluation? worker = none) : Finishes c worker c
  | skipped {e : Evaluation} (he : c.evaluation? worker = some e) (ha : e.published.admits e.ctx = false) :
    Finishes c worker (c.endEvaluation worker)
  /-- A pass is made, and at most the statistics of the rulebook change. -/
  | passed {e : Evaluation} (he : c.evaluation? worker = some e) (ha : e.published.admits e.ctx = true)
    (t : Telemetry) :
    Finishes c worker
      { (c.endEvaluation worker).assign worker ((c.workers worker).pass c.drops c.engines e).1 with
        book := { c.book with store := { c.book.store with telemetry := t } } }

theorem finishes (c : Crew) (worker : Nat) (times : Times) : c.Finishes worker (c.finish worker times).1 := by
  unfold finish
  cases he : c.evaluation? worker with
  | none => exact .nothing he
  | some e =>
    dsimp only
    split
    · rename_i ha
      obtain ⟨t, ht⟩ := c.book.store.exists_finishPass e.published.ruleset.version times
        ((c.workers worker).pass c.drops c.engines e).2
      rw [ht]
      exact .passed he ha t
    · rename_i ha
      exact .skipped he (eq_false_of_ne_true ha)

/-- Everything that an event can do. -/
inductive Steps (c : Crew) : Event → Crew → Prop where
  | book (a : Session.Action) : Steps c (.book a) { c with book := c.book.after a }
  | addEngine : Steps c .addEngine c.addEngine
  | dropEngine {engine worker : Nat} (he : engine ∈ c.engines) (hf : c.isFree worker = true)
    (hi : c.isIdle engine = true) : Steps c (.dropEngine engine worker) (c.dropEngine engine worker)
  | clearCache {engine worker : Nat} (he : engine ∈ c.engines) (hf : c.isFree worker = true) :
    Steps c (.clearCache engine worker) (c.clearCache engine worker)
  | begin {engine worker : Nat} (ctx : Context) (he : engine ∈ c.engines) (hf : c.isFree worker = true) :
    Steps c (.begin engine worker ctx) (c.begin engine worker ctx)
  | finish {worker : Nat} (times : Times) {t : Crew} (h : c.Finishes worker t) : Steps c (.finish worker times) t
  /-- What cannot happen now changes nothing. -/
  | refused (x : Event) : Steps c x c

theorem steps (c : Crew) (x : Event) : c.Steps x (c.step x) := by
  cases x with
  | book a => exact .book a
  | addEngine => exact .addEngine
  | finish worker times => exact .finish times (c.finishes worker times)
  | dropEngine engine worker =>
    simp only [step]
    split
    · rename_i h
      exact .dropEngine h.1 h.2.1 h.2.2
    · exact .refused _
  | clearCache engine worker =>
    simp only [step]
    split
    · rename_i h
      exact .clearCache h.1 h.2
    · exact .refused _
  | begin engine worker ctx =>
    simp only [step]
    split
    · rename_i h
      exact .begin ctx h.1 h.2
    · exact .refused _

/-- A worker that makes a pass keeps what the pass leaves. -/
theorem workers_finish {worker : Nat} {e : Evaluation} (he : c.evaluation? worker = some e)
    (ha : e.published.admits e.ctx = true) (times : Times) :
    (c.finish worker times).1.workers worker = ((c.workers worker).pass c.drops c.engines e).1 := by
  simp only [finish, he, ha, if_true]
  simp [workers_assign]

/-- The answer of a pass that is made. -/
theorem finish_answer {worker : Nat} {e : Evaluation} (he : c.evaluation? worker = some e)
    (ha : e.published.admits e.ctx = true) (times : Times) :
    (c.finish worker times).2 =
      (c.book.store.finishPass e.published.ruleset.version times
        ((c.workers worker).pass c.drops c.engines e).2).2 := by
  simp only [finish, he, ha, if_true]

/-! ## Caches stay apart -/

/-- The event neither makes a pass of the worker for the engine nor clears his cache for it. -/
structure Spares (c : Crew) (x : Event) (engine worker : Nat) : Prop where
  makes : ∀ times, x = .finish worker times → ∀ e, c.evaluation? worker = some e → e.engine = engine →
    e.published.admits e.ctx = false
  clears : x ≠ .clearCache engine worker

theorem cache_clearCache (c : Crew) (engine worker engine' worker' : Nat) :
    ((c.clearCache engine' worker').workers worker).cache engine =
      if engine = engine' ∧ worker = worker' then .empty else (c.workers worker).cache engine := by
  rw [clearCache, workers_assign]
  by_cases hw : worker = worker'
  · subst hw
    simp [Worker.cache_discard]
  · simp [hw]

/-- **Caches are kept apart.** An event that spares the cache of a worker for an engine leaves it as it is, as long as
the engine is there. -/
theorem Spares.cache_step {x : Event} {engine worker : Nat} (h : c.Spares x engine worker)
    (he : engine ∈ (c.step x).engines) :
    ((c.step x).workers worker).cache engine = (c.workers worker).cache engine := by
  have hs := c.steps x
  generalize c.step x = t at hs he
  cases hs with
  | book | addEngine | begin | refused => rfl
  | @clearCache engine' worker' =>
    rw [cache_clearCache, if_neg]
    rintro ⟨rfl, rfl⟩
    exact h.clears rfl
  | @dropEngine engine' worker' =>
    have hne : engine ≠ engine' := of_decide_eq_true (List.mem_filter.1 he).2
    exact (cache_clearCache ..).trans (if_neg fun hc => hne hc.1)
  | @finish worker' times t hf =>
    cases hf with
    | nothing | skipped => rfl
    | @passed e hev ha t =>
      by_cases hw : worker = worker'
      · subst hw
        -- the pass is for another engine, and releases no cache of one that is there
        have hne : engine ≠ e.engine := by
          intro heq
          simp [h.makes times rfl e hev heq.symm] at ha
        have hcache := (c.workers worker).cache_pass c.drops c.engines e engine
        rw [if_neg hne] at hcache
        simp only [workers_assign, if_true]
        rw [hcache]
        exact ((c.workers worker).cache_prune c.drops c.engines engine).resolve_right fun hout => hout.1 he
      · simp only [workers_assign, if_neg hw]
        rfl

/-! ## Caches for dropped engines -/

/-- A worker that knows of all drops keeps caches only for engines that are there, and so do evaluations under way. -/
structure Tended (c : Crew) : Prop where
  epoch_le : ∀ worker, (c.workers worker).epoch ≤ c.drops
  caches : ∀ worker, (c.workers worker).epoch = c.drops → ∀ x ∈ (c.workers worker).caches, x.1 ∈ c.engines
  underway : ∀ e ∈ c.underway, e.engine ∈ c.engines

theorem tended_start (o : Origin) : (start o).Tended := ⟨fun _ => Nat.le_refl _, nofun, nofun⟩

theorem Tended.clearCache (h : c.Tended) (engine worker : Nat) : (c.clearCache engine worker).Tended := by
  refine ⟨fun i => ?_, fun i => ?_, h.underway⟩
  · rw [Crew.clearCache, workers_assign]
    split
    · exact h.epoch_le worker
    · exact h.epoch_le i
  · rw [Crew.clearCache, workers_assign]
    split
    · exact fun hi x hx => h.caches worker hi x ((List.mem_filter.1 hx).1)
    · exact h.caches i

theorem Tended.addEngine (h : c.Tended) : c.addEngine.Tended :=
  ⟨h.epoch_le, fun worker hw x hx => List.mem_append_left _ (h.caches worker hw x hx),
    fun e he => List.mem_append_left _ (h.underway e he)⟩

/-- After a drop no worker knows of all drops. -/
theorem Tended.dropEngine (h : c.Tended) {engine : Nat} (worker : Nat) (hi : c.isIdle engine = true) :
    (c.dropEngine engine worker).Tended := by
  have hlt : ∀ i, ((c.dropEngine engine worker).workers i).epoch < (c.dropEngine engine worker).drops :=
    fun i => Nat.lt_succ_of_le ((h.clearCache engine worker).epoch_le i)
  refine ⟨fun i => Nat.le_of_lt (hlt i), fun i he => absurd he (Nat.ne_of_lt (hlt i)), fun e he => ?_⟩
  exact List.mem_filter.2 ⟨h.underway e he, List.all_eq_true.1 hi e he⟩

theorem Tended.begin (h : c.Tended) {engine : Nat} (he : engine ∈ c.engines) (worker : Nat) (ctx : Context) :
    (c.begin engine worker ctx).Tended := by
  refine ⟨h.epoch_le, h.caches, fun e hm => ?_⟩
  rcases List.mem_cons.1 hm with rfl | hm
  · exact he
  · exact h.underway e hm

theorem Tended.finish (h : c.Tended) {worker : Nat} {t : Crew} (hf : c.Finishes worker t) : t.Tended := by
  have hu : ∀ e ∈ (c.endEvaluation worker).underway, e.engine ∈ c.engines :=
    fun e he => h.underway e ((List.mem_filter.1 he).1)
  cases hf with
  | nothing => exact h
  | skipped => exact ⟨h.epoch_le, h.caches, hu⟩
  | @passed e he =>
    refine ⟨fun i => ?_, fun i => ?_, hu⟩
    · simp only [workers_assign]
      split
      · exact Nat.le_of_eq (Worker.epoch_pass ..)
      · exact h.epoch_le i
    · simp only [workers_assign]
      split
      · exact fun _ => Worker.engine_mem_pass _ (h.caches worker) (h.underway e (mem_of_evaluation? he).1)
      · exact h.caches i

theorem Tended.step (h : c.Tended) (x : Event) : (c.step x).Tended := by
  have hs := c.steps x
  generalize c.step x = t at hs
  cases hs with
  | book => exact ⟨h.epoch_le, h.caches, h.underway⟩
  | addEngine => exact h.addEngine
  | dropEngine _ _ hi => exact h.dropEngine _ hi
  | clearCache => exact h.clearCache ..
  | begin ctx he => exact h.begin he _ ctx
  | finish times hf => exact h.finish hf
  | refused => exact h

theorem Tended.run (xs : List Event) : ∀ {c : Crew}, c.Tended → (c.run xs).Tended := by
  induction xs with
  | nil => exact fun h => h
  | cons x xs ih => exact fun h => ih (h.step x)

/-- **Dropped engines are forgotten.** After any events whatever, a worker that makes a pass keeps caches only for engines
that are there, whoever dropped the others. -/
theorem engine_mem_of_pass (o : Origin) (es : List Event) {worker : Nat} {e : Evaluation}
    (he : ((start o).run es).evaluation? worker = some e) (ha : e.published.admits e.ctx = true) (times : Times) :
    ∀ x ∈ ((((start o).run es).step (.finish worker times)).workers worker).caches,
      x.1 ∈ ((start o).run es).engines := by
  have h : ((start o).run es).Tended := (tended_start o).run es
  rw [Crew.step, workers_finish he ha]
  exact Worker.engine_mem_pass _ (h.caches worker) (h.underway _ (mem_of_evaluation? he).1)

end Crew

end FraudScreen.Rules
