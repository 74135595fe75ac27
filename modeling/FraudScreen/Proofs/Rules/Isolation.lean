import FraudScreen.Proofs.Payment.Acceptance
import FraudScreen.Proofs.Rules.CompiledRules
import FraudScreen.Proofs.Rules.Crashes
import FraudScreen.Proofs.Rules.LoadHistory
import FraudScreen.Proofs.Rules.WorkerCaches

/-!
# What the caches of workers hold

While an evaluation is under way, a newer rule set may be put in force. `Crew.Sound` says what caches hold meanwhile:
every cache fits the rule set in force, and that of an evaluation also fits the rule set which the evaluation has taken.
So an evaluation answers as if nothing had happened since it began (`Crew.Sound.answer`), and a pass leaves exactly the
rules that compile, of the rule set that it has taken: `Crew.cachedRules_step`.
-/
namespace FraudScreen.Rules

/-- Whatever happens to a rulebook, the rule set in force stays or is followed by a newer one. -/
theorem Rulebook.Moves.numbered {b b' : Rulebook} {q : Option LoadResult} (hm : b.Moves b' q)
    (h : b.store.Numbered) : b'.store.Numbered ∧
      (b'.store.current = b.store.current ∨ b.store.current.generation < b'.store.current.generation) := by
  cases q with
  | none =>
    rw [hm.sameLoads.store]
    exact ⟨⟨h.generation, h.ids⟩, .inl rfl⟩
  | some result =>
    obtain ⟨c, hl, hstore, -⟩ := hm.loads
    rw [hstore]
    cases hl with
    | replaced hr => exact ⟨⟨rfl, idsUnique_of_load hr⟩, .inr (h.generation ▸ Nat.lt_succ_self _)⟩
    | blamed he => exact ⟨⟨h.generation, h.ids⟩, .inl rfl⟩

/-! ## What caches hold -/

/-- What a cache may hold while `p` is in force or was taken by an evaluation. -/
structure Cache.Fits (p : Published) (c : Cache) : Prop where
  faithful : c.Faithful p
  trim : c.Trim p

namespace Cache

variable {p q : Published} {c : Cache}

theorem fits_empty : empty.Fits p := ⟨faithful_empty, trim_empty⟩

/-- What fits a rule set fits every later one. -/
theorem Fits.mono (h : c.Fits p) (hle : p = q ∨ p.generation < q.generation) : c.Fits q := by
  rcases hle with rfl | hlt
  · exact h
  · exact ⟨h.faithful.publish hlt, h.trim.publish hlt⟩

theorem Fits.run (h : c.Fits p) (hp : p.ruleset.IdsUnique) (ctx : Context) : (c.run p ctx).1.Fits p :=
  ⟨(h.faithful.run hp ctx).1, (h.trim.run hp ctx).1⟩

end Cache

/-- What an evaluation has taken: the rule set in force, or an older one. -/
structure Evaluation.Sound (current : Published) (e : Evaluation) : Prop where
  ids : e.published.ruleset.IdsUnique
  older : e.published = current ∨ e.published.generation < current.generation

namespace Crew

/-- Every cache fits the rule set in force, and that of an evaluation under way fits the rule set that this has
taken. -/
structure Sound (c : Crew) : Prop where
  numbered : c.book.store.Numbered
  caches : ∀ worker engine, ((c.workers worker).cache engine).Fits c.book.store.current
  underway : ∀ e ∈ c.underway, e.Sound c.book.store.current ∧ ((c.workers e.worker).cache e.engine).Fits e.published

variable {c : Crew}

theorem sound_start (o : Origin) : (start o).Sound :=
  ⟨Store.numbered_empty, fun _ _ => Cache.fits_empty, nofun⟩

/-- A newer rule set may be put in force at any time. -/
theorem Sound.book (h : c.Sound) {b : Rulebook} {q : Option LoadResult} (hm : c.book.Moves b q) :
    Sound { c with book := b } := by
  obtain ⟨hn, hcurrent⟩ := hm.numbered h.numbered
  refine ⟨hn, fun worker engine => ?_, fun e he => ?_⟩
  · exact (h.caches worker engine).mono (hcurrent.imp_left Eq.symm)
  · obtain ⟨⟨hids, holder⟩, hcache⟩ := h.underway e he
    refine ⟨⟨hids, ?_⟩, hcache⟩
    rcases hcurrent with e' | hlt
    · exact e' ▸ holder
    · exact .inr (holder.elim (fun e' => e' ▸ hlt) fun hlt' => Nat.lt_trans hlt' hlt)

/-- Caches may be taken away, and evaluations may be given up. -/
theorem Sound.restrict {t : Crew} (h : c.Sound) (hb : t.book = c.book) (hu : ∀ e ∈ t.underway, e ∈ c.underway)
    (hcs : ∀ worker engine, (t.workers worker).cache engine = (c.workers worker).cache engine ∨
      (t.workers worker).cache engine = .empty) : t.Sound := by
  have hfits : ∀ {p : Published} (worker engine : Nat), ((c.workers worker).cache engine).Fits p →
      ((t.workers worker).cache engine).Fits p := by
    intro p worker engine hf
    rcases hcs worker engine with e | e
    · exact e ▸ hf
    · exact e ▸ Cache.fits_empty
  refine ⟨hb ▸ h.numbered, fun worker engine => hfits _ _ (hb ▸ h.caches worker engine), fun e he => ?_⟩
  obtain ⟨hs, hcache⟩ := h.underway e (hu e he)
  exact ⟨hb ▸ hs, hfits _ _ hcache⟩

theorem Sound.clearCache (h : c.Sound) (engine worker : Nat) : (c.clearCache engine worker).Sound := by
  refine h.restrict rfl (fun _ he => he) fun worker' engine' => ?_
  rw [cache_clearCache]
  split
  · exact .inr rfl
  · exact .inl rfl

/-- An evaluation begins with the rule set in force, which every cache fits. -/
theorem Sound.begin (h : c.Sound) (engine worker : Nat) (ctx : Context) : (c.begin engine worker ctx).Sound := by
  refine ⟨h.numbered, h.caches, fun e he => ?_⟩
  rcases List.mem_cons.1 he with rfl | he
  · exact ⟨⟨h.numbered.ids, .inl rfl⟩, h.caches worker engine⟩
  · exact h.underway e he

/-- The cache with which a worker makes a pass is as good as the one that he kept. -/
theorem Sound.ready (h : c.Sound) {worker : Nat} {e : Evaluation} (he : c.evaluation? worker = some e) :
    e.Sound c.book.store.current ∧
      (((c.workers worker).prune c.drops c.engines).cache e.engine).Fits e.published := by
  obtain ⟨hm, rfl⟩ := mem_of_evaluation? he
  obtain ⟨hs, hf⟩ := h.underway e hm
  refine ⟨hs, ?_⟩
  rcases (c.workers e.worker).cache_prune c.drops c.engines e.engine with hp | ⟨-, hp⟩
  · exact hp ▸ hf
  · exact hp ▸ Cache.fits_empty

theorem mem_endEvaluation {worker : Nat} {e : Evaluation} :
    e ∈ (c.endEvaluation worker).underway ↔ e ∈ c.underway ∧ e.worker ≠ worker := by
  simp [endEvaluation]

/-- **The second step of an evaluation** keeps all caches sound. -/
theorem Sound.finish (h : c.Sound) {worker : Nat} {t : Crew} (hf : c.Finishes worker t) : t.Sound := by
  cases hf with
  | nothing => exact h
  | skipped he ha => exact h.restrict rfl (fun e hm => (mem_endEvaluation.1 hm).1) fun _ _ => .inl rfl
  | @passed e he ha t =>
    obtain ⟨hs, hready⟩ := h.ready he
    have hrun := hready.run hs.ids e.ctx
    refine ⟨⟨h.numbered.generation, h.numbered.ids⟩, fun worker' engine => ?_, fun e' hm => ?_⟩
    · simp only [workers_assign]
      split
      · rw [Worker.cache_pass]
        split
        · exact hrun.mono hs.older
        · rename_i hne
          rcases (c.workers worker).cache_prune c.drops c.engines engine with hp | ⟨-, hp⟩
          · exact hp ▸ h.caches worker engine
          · exact hp ▸ Cache.fits_empty
      · exact h.caches worker' engine
    · obtain ⟨hm, hne⟩ := mem_endEvaluation.1 hm
      simp only [workers_assign, if_neg hne]
      exact h.underway e' hm

theorem Sound.step (h : c.Sound) (x : Event) : (c.step x).Sound := by
  have hs := c.steps x
  generalize c.step x = t at hs
  cases hs with
  | book a => exact h.book (Session.moves_step ⟨c.book, [], 0, []⟩ a)
  | addEngine => exact h.restrict rfl (fun _ he => he) fun _ _ => .inl rfl
  | @dropEngine engine worker =>
    have hc := h.clearCache engine worker
    exact hc.restrict rfl (fun _ he => he) fun _ _ => .inl rfl
  | clearCache => exact h.clearCache ..
  | begin ctx => exact h.begin _ _ ctx
  | finish times hf => exact h.finish hf
  | refused => exact h

theorem Sound.run (xs : List Event) : ∀ {c : Crew}, c.Sound → (c.run xs).Sound := by
  induction xs with
  | nil => exact fun h => h
  | cons x xs ih => exact fun h => ih (h.step x)

/-! ## Evaluations that span other events -/

theorem evaluation?_endEvaluation {worker other : Nat} (h : worker ≠ other) :
    (c.endEvaluation other).evaluation? worker = c.evaluation? worker := by
  have hq : (fun e : Evaluation => decide (e.worker ≠ other ∧ e.worker = worker)) =
      fun e => decide (e.worker = worker) := by
    funext e
    by_cases he : e.worker = worker <;> simp [he, h]
  simp only [evaluation?, endEvaluation, List.find?_filter, decide_eq_true_eq, hq]

/-- An evaluation goes on with what it has taken, until its worker finishes it. -/
theorem evaluation?_step {worker : Nat} {e : Evaluation} (h : c.evaluation? worker = some e) {x : Event}
    (hx : ∀ times, x ≠ .finish worker times) : (c.step x).evaluation? worker = some e := by
  have hs := c.steps x
  generalize c.step x = t at hs
  cases hs with
  | book | addEngine | dropEngine | clearCache | refused => exact h
  | @begin engine other ctx _ hfree =>
    -- the other worker is free, and this one is not
    have hne : other ≠ worker := by
      rintro rfl
      simp [isFree, h] at hfree
    exact (List.find?_cons_of_neg (by simpa using hne)).trans h
  | @finish other times t hf =>
    have hne : worker ≠ other := fun e => hx times (e ▸ rfl)
    cases hf with
    | nothing => exact h
    | skipped | passed => exact (evaluation?_endEvaluation hne).trans h

theorem evaluation?_run {worker : Nat} {e : Evaluation} (xs : List Event) : ∀ {c : Crew},
    c.evaluation? worker = some e → (∀ x ∈ xs, ∀ times, x ≠ .finish worker times) →
      (c.run xs).evaluation? worker = some e := by
  induction xs with
  | nil => exact fun h _ => h
  | cons x xs ih =>
    intro c h hx
    obtain ⟨hx, hxs⟩ := List.forall_mem_cons.1 hx
    exact ih (evaluation?_step h hx) hxs

theorem evaluation?_step_begin {engine worker : Nat} (he : engine ∈ c.engines) (hf : c.isFree worker = true)
    (ctx : Context) :
    (c.step (.begin engine worker ctx)).evaluation? worker = some ⟨worker, engine, ctx, c.book.store.current⟩ := by
  rw [step, if_pos ⟨he, hf⟩]
  exact List.find?_cons_of_pos (decide_eq_true rfl)

/-- A worker is free again when he has finished his evaluation. -/
theorem isFree_finish (c : Crew) (worker : Nat) (times : Times) :
    (c.finish worker times).1.isFree worker = true := by
  have hend : (c.endEvaluation worker).isFree worker = true := by
    simp [isFree, evaluation?, endEvaluation, List.find?_filter]
  have hf := c.finishes worker times
  generalize (c.finish worker times).1 = t at hf
  cases hf with
  | nothing h => rw [isFree, h]; rfl
  | skipped | passed => exact hend

theorem engine_mem_step {engine : Nat} (h : engine ∈ c.engines) {x : Event}
    (hx : ∀ worker, x ≠ .dropEngine engine worker) : engine ∈ (c.step x).engines := by
  have hs := c.steps x
  generalize c.step x = t at hs
  cases hs with
  | book | clearCache | begin | refused => exact h
  | addEngine => exact List.mem_append_left _ h
  | @dropEngine other worker => exact List.mem_filter.2 ⟨h, decide_eq_true fun e => hx worker (e ▸ rfl)⟩
  | finish times hf =>
    cases hf with
    | nothing | skipped | passed => exact h

/-- Engines that nobody drops are still there. -/
theorem engine_mem_run {engine : Nat} (xs : List Event) : ∀ {c : Crew}, engine ∈ c.engines →
    (∀ x ∈ xs, ∀ worker, x ≠ .dropEngine engine worker) → engine ∈ (c.run xs).engines := by
  induction xs with
  | nil => exact fun h _ => h
  | cons x xs ih =>
    intro c h hx
    obtain ⟨hx, hxs⟩ := List.forall_mem_cons.1 hx
    exact ih (engine_mem_step h hx) hxs

/-- An evaluation answers as the pass without caches does for the rule set that it has taken, if its times can be
counted. -/
theorem Sound.answer (h : c.Sound) {worker : Nat} {e : Evaluation} (he : c.evaluation? worker = some e)
    (times : Times) :
    (c.finish worker times).2 =
      if c.book.store.overruns e.published e.ctx times then none else pass e.published e.ctx := by
  cases ha : e.published.admits e.ctx with
  | false => simp [Crew.finish, he, ha, pass, Store.overruns]
  | true =>
    obtain ⟨hs, hready⟩ := h.ready he
    obtain ⟨-, hany, heq⟩ := hready.faithful.run hs.ids e.ctx
    rw [finish_answer he ha, Worker.pass, Store.finishPass_congr _ _ times hany heq, Store.finishPass_outcomes ha]

/-- A pass that ends leaves exactly the rules that compile. -/
theorem Sound.cachedRules_finish (h : c.Sound) {worker : Nat} {e : Evaluation} (he : c.evaluation? worker = some e)
    (ha : e.published.admits e.ctx = true) {times : Times} (hm : (c.finish worker times).2 ≠ none) :
    (c.finish worker times).1.cachedRules e.engine worker =
      e.published.ruleset.enabledRules.countP (·.compiles) := by
  obtain ⟨hs, hready⟩ := h.ready he
  have hno : ((c.workers worker).pass c.drops c.engines e).2.any (·.2.isCrash) = false := by
    rw [finish_answer he ha] at hm
    by_contra hc
    rw [Bool.not_eq_false] at hc
    exact hm (by simp only [Store.finishPass, hc, if_true])
  rw [cachedRules, workers_finish he ha, Worker.cache_pass, if_pos rfl]
  exact hready.trim.size_run hs.ids e.ctx hno

/-- **Caches are kept apart, and hold exactly the rules that compile.** After any events whatever: an evaluation that
makes a pass answers as without caches, unless statistics cannot take up its times any more, and if it ends, it leaves
as many compiled rules as there are enabled ones that compile in the rule set that was in force when it began, whatever
happened in between and whatever the cache held. Clearing the cache of a worker for an engine leaves none. All events
but these two leave the number as it is, as long as the engine is there. -/
theorem cachedRules_step (o : Origin) (es : List Event) (engine worker : Nat) :
    let c := (start o).run es
    (∀ ctx xs times, engine ∈ c.engines → c.isFree worker = true → (∀ x ∈ xs, ∀ times, x ≠ .finish worker times) →
      let p := c.book.store.current
      let d := (c.step (.begin engine worker ctx)).run xs
      p.admits ctx = true →
        (d.finish worker times).2 = (if d.book.store.overruns p ctx times then none else pass p ctx) ∧
        ((d.finish worker times).2 ≠ none →
          (d.step (.finish worker times)).cachedRules engine worker = p.ruleset.enabledRules.countP (·.compiles))) ∧
    (engine ∈ c.engines → c.isFree worker = true →
      (c.step (.clearCache engine worker)).cachedRules engine worker = 0) ∧
    ∀ x, c.Spares x engine worker → engine ∈ (c.step x).engines →
      (c.step x).cachedRules engine worker = c.cachedRules engine worker := by
  intro c
  have h : c.Sound := (sound_start o).run es
  refine ⟨?_, ?_, ?_⟩
  · intro ctx xs times he hfree hxs p d ha
    have hd : d.Sound := (h.step _).run xs
    have hev : d.evaluation? worker = some ⟨worker, engine, ctx, p⟩ :=
      evaluation?_run xs (evaluation?_step_begin he hfree ctx) hxs
    exact ⟨hd.answer hev times, fun hm => hd.cachedRules_finish hev ha hm⟩
  · intro he hfree
    rw [step, if_pos ⟨he, hfree⟩, cachedRules, cache_clearCache, if_pos ⟨rfl, rfl⟩]
    rfl
  · intro x hx he
    exact congrArg Cache.size (hx.cache_step he)

/-- Of four rules one is not enabled, one is not complete, and one compiles but asks for a variable that there is not.
While worker 1 is in an evaluation, other rules are put in force and evaluated by worker 2. The pass of worker 1 still
leaves the two rules that compile. Dropping the other engine leaves them, too, and clearing the cache takes them
away. -/
theorem cachedRules_step_reloaded :
    let entry (id expression : String) (enabled : Bool) : Entry :=
      ⟨some id, none, some expression, none, some enabled, none⟩
    let d : Document := ⟨some "1", none, [entry "large" "amount > 1000" true, entry "open" "(amount" true,
      entry "unknown" "total > 1000" true, entry "asleep" "amount > 1" false]⟩
    let d' : Document := ⟨some "2", none, [entry "small" "amount < 1" true]⟩
    let ctx : Context := .ofTransaction .ordinary
    let c := (start (.memory d)).run [.book .reload, .addEngine]
    let t := ((c.step (.begin 0 1 ctx)).run
      [.book (.replace d'), .book .reload, .begin 0 2 ctx, .finish 2 .zero]).step (.finish 1 .zero)
    t.cachedRules 0 1 = 2 ∧ (t.step (.dropEngine 1 2)).cachedRules 0 1 = 2 ∧
      (t.step (.clearCache 0 1)).cachedRules 0 1 = 0 := by
  intro entry d d' ctx c t
  let rs : Ruleset := ⟨"1", d.rules.filterMap Entry.rule?, .standard⟩
  let es : List Event := [.book .reload, .addEngine]
  let xs : List Event := [.book (.replace d'), .book .reload, .begin 0 2 ctx, .finish 2 .zero]
  have hd : Ruleset.ofDocument d = .ok rs := Ruleset.ofDocument_of_sorted rfl rfl (by decide +kernel)
  have hp : c.book.store.current = ⟨rs, 1⟩ := Rulebook.current_reload hd
  have ha : c.book.store.current.admits ctx = true := by rw [hp]; decide +kernel
  have he : 0 ∈ c.engines := engine_mem_run es (List.mem_singleton_self 0) (by simp [es])
  have hxs : ∀ x ∈ xs, ∀ times, x ≠ .finish 1 times := by simp [xs]
  have hno : (outcomes rs ctx).any (·.2.isCrash) = false := by decide +kernel
  have hcount : t.cachedRules 0 1 = 2 := by
    obtain ⟨hanswer, hleft⟩ := (cachedRules_step (.memory d) es 0 1).1 ctx xs .zero he rfl hxs ha
    rw [Store.overruns_zero, if_neg Bool.false_ne_true] at hanswer
    have hpass : pass c.book.store.current ctx ≠ none := by
      rw [(pass_eq_some_iff ha).2 ⟨hp ▸ hno, rfl⟩]
      nofun
    have hleft := hleft (hanswer ▸ hpass)
    refine hleft.trans ?_
    show c.book.store.current.ruleset.enabledRules.countP (·.compiles) = 2
    rw [hp]
    decide +kernel
  have hfree : t.isFree 1 = true := isFree_finish _ 1 .zero
  obtain ⟨ys, ht, hys⟩ : ∃ ys, t = (start (.memory d)).run ys ∧ ∀ x ∈ ys, ∀ worker, x ≠ .dropEngine 0 worker :=
    ⟨es ++ .begin 0 1 ctx :: xs ++ [.finish 1 .zero], by simp only [run_append, run_cons, run_nil, t, c, es, xs],
      by simp [es, xs]⟩
  clear_value t
  subst ht
  have hthere : 0 ∈ ((start (.memory d)).run ys).engines := engine_mem_run ys (List.mem_singleton_self 0) hys
  obtain ⟨-, hcleared, hspared⟩ := cachedRules_step (.memory d) ys 0 1
  have hdropped := hspared (.dropEngine 1 2) ⟨by simp, by simp⟩ (engine_mem_step hthere (by simp))
  exact ⟨hcount, hdropped.trans hcount, hcleared hthere hfree⟩

end Crew

end FraudScreen.Rules
