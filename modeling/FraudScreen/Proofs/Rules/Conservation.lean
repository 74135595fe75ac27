import FraudScreen.Proofs.Rules.Trials

/-!
# Trials are neither lost nor counted twice

Statistics and caches have no say in what a session does (`Session.step_bare`), so what there is to count can be
listed without them. As long as the rule set in force and the engines stay and nothing is reset, trials may come
in any order: they give the same events (`Session.log_of_quiet`) and leave the same session behind but for
statistics and caches. With the counts of single histories this is `Session.run_conserves`.
-/
namespace FraudScreen.Rules

/-! ## Sessions without their statistics -/

namespace Rulebook

/-- The rulebook without its statistics. -/
def bare (b : Rulebook) : Rulebook := { b with store := { b.store with telemetry := [] } }

/-- A load does not look at statistics. -/
theorem reload_bare (b : Rulebook) : b.bare.reload.1.bare = b.reload.1.bare ∧ b.bare.reload.2 = b.reload.2 := by
  have hs : b.bare.source = b.source := rfl
  simp only [reload, Store.reload, hs]
  cases b.source.load <;> exact ⟨rfl, rfl⟩

theorem poll_bare (b : Rulebook) : b.bare.poll.bare = b.poll.bare := by
  unfold poll
  have hp : b.bare.poller = b.poller := rfl
  have hs : b.bare.source = b.source := rfl
  rw [hp, hs]
  split
  · rename_i p m _ _
    have hm : b.bare.isSettled p m = b.isSettled p m := rfl
    rw [hm]
    split
    · rfl
    · obtain ⟨hb, hr⟩ := b.reload_bare
      generalize b.bare.reload = x at hb hr
      generalize b.reload = y at hb hr
      obtain ⟨b₁, result⟩ := x
      obtain ⟨b₂, result⟩ := y
      cases hr
      have hb : b₁.bare = b₂.bare := hb
      cases result with
      | error e => exact congrArg (fun c : Rulebook => { c with poller := some { p with failed := some m } }) hb
      | ok published =>
        simp only [notify_eq]
        exact congrArg (fun c : Rulebook => { c with
          poller := some { p with failed := none }
          notified := c.notified ++ Poller.told { p with failed := none } published }) hb
  · rfl

theorem enablePolling_bare (b : Rulebook) (interval : Nat) (observer : Option CallResult) :
    b.bare.enablePolling interval observer = (b.enablePolling interval observer).map bare := by
  have hp : b.bare.poller = b.poller := rfl
  have hi : b.bare.store.isInitialized = b.store.isInitialized := rfl
  unfold enablePolling
  rw [hp, hi]
  repeat' split
  all_goals rfl

end Rulebook

namespace Session

/-- The session without statistics and caches. -/
def bare (s : Session) : Session := { s with book := s.book.bare, caches := [] }

theorem bare_evaluate (s : Session) (engine worker : Nat) (ctx : Context) (times : Times) :
    (s.evaluate engine worker ctx times).1.bare = s.bare := by
  unfold evaluate
  dsimp only
  split
  · obtain ⟨t, e⟩ := s.book.store.exists_finishPass s.book.store.current.ruleset.version times
      ((s.caches.get engine worker).run s.book.store.current ctx).2
    dsimp only [bare, Rulebook.bare]
    rw [e]
  · rfl

/-- What an action does to the rest does not depend on statistics and caches. -/
theorem step_bare (s : Session) (a : Action) : (s.bare.step a).bare = (s.step a).bare := by
  cases a with
  | evaluate engine worker ctx times =>
    have he : s.bare.engines = s.engines := rfl
    simp only [step, he]
    split
    · rw [bare_evaluate, bare_evaluate]
      rfl
    · rfl
  | clearCache engine worker =>
    have he : s.bare.engines = s.engines := rfl
    simp only [step, he]
    split <;> rfl
  | reload => exact congrArg (fun b => { s with book := b, caches := [] }) s.book.reload_bare.1
  | poll => exact congrArg (fun b => { s with book := b, caches := [] }) s.book.poll_bare
  | enablePolling interval observer =>
    have hb : s.bare.book.enablePolling interval observer =
        (s.book.enablePolling interval observer).map Rulebook.bare := s.book.enablePolling_bare interval observer
    simp only [step, hb]
    cases s.book.enablePolling interval observer <;> rfl
  | replace | write | setOffline | addEngine | dropEngine | record | resetTelemetry | disablePolling => rfl

theorem run_bare (as : List Action) : ∀ s : Session, (s.bare.run as).bare = (s.run as).bare := by
  induction as with
  | nil => exact fun _ => rfl
  | cons a as ih =>
    intro s
    calc ((s.bare.step a).run as).bare
      _ = ((s.bare.step a).bare.run as).bare := (ih _).symm
      _ = ((s.step a).bare.run as).bare := by rw [step_bare]
      _ = ((s.step a).run as).bare := ih _

theorem logged_bare (s : Session) (past : List Event) (a : Action) : s.bare.logged past a = s.logged past a := by
  cases a <;> rfl

theorem log_bare (as : List Action) : ∀ (s : Session) (past : List Event),
    s.bare.log past as = s.log past as := by
  induction as with
  | nil => exact fun _ _ => rfl
  | cons a as ih =>
    intro s past
    calc (s.bare.step a).log (s.bare.logged past a) as
      _ = (s.bare.step a).bare.log (s.logged past a) as := by rw [ih, logged_bare]
      _ = (s.step a).bare.log (s.logged past a) as := by rw [step_bare]
      _ = (s.step a).log (s.logged past a) as := ih _ _

/-! ## Trials in another order -/

/-- The action is a trial of one rule or of all. -/
def Action.isTrial : Action → Bool
  | .evaluate .. | .record _ => true
  | _ => false

/-- The action leaves the rule set in force and the engines, and resets nothing. -/
def Action.isQuiet : Action → Bool
  | .reload | .poll | .resetTelemetry | .addEngine | .dropEngine _ => false
  | _ => true

/-- The same actions with their trials in another order, and at other places among the other actions. There
are no loads, no resets and no changes of engines among them. -/
structure Reordered (as bs : List Action) : Prop where
  left : ∀ a ∈ as, a.isQuiet
  right : ∀ a ∈ bs, a.isQuiet
  trials : (as.filter (·.isTrial)).Perm (bs.filter (·.isTrial))
  others : as.filter (!·.isTrial) = bs.filter (!·.isTrial)

theorem event?_congr {s t : Session} (hc : t.book.store.current = s.book.store.current)
    (he : t.engines = s.engines) (a : Action) : t.event? a = s.event? a := by
  cases a with
  | evaluate engine worker ctx times => simp only [event?, hc, he]
  | _ => rfl

/-- After a quiet action a trial has the effect that it had before. -/
theorem event?_step_of_quiet {a : Action} (h : a.isQuiet = true) (s : Session) (c : Action) :
    (s.step a).event? c = s.event? c := by
  have hm := s.moves_step a
  have hl : s.load? a = none := by
    cases a with
    | reload | poll => cases h
    | _ => rfl
  have he : (s.step a).engines = s.engines := by
    cases a with
    | reload | poll | resetTelemetry | addEngine | dropEngine => cases h
    | evaluate engine worker ctx times =>
      simp only [step]
      split
      · have hb := congrArg Session.engines (s.bare_evaluate engine worker ctx times)
        exact hb
      · rfl
    | clearCache | enablePolling =>
      simp only [step]
      split <;> rfl
    | replace | write | setOffline | record | disablePolling => rfl
  rw [hl] at hm
  have hc : (s.step a).book.store.current = s.book.store.current := by rw [hm.sameLoads.store]
  exact event?_congr hc he c

theorem logged_of_quiet {a : Action} (h : a.isQuiet = true) (s : Session) (past : List Event) :
    s.logged past a = past ++ (s.event? a).toList := by
  refine logged_of_ne ?_ s past
  rintro rfl
  cases h

/-- Only trials are events. -/
theorem isTrial_of_event? {s : Session} {a : Action} {e : Event} (h : s.event? a = some e) : a.isTrial = true := by
  cases a with
  | evaluate | record => rfl
  | _ => cases h

/-- The events of quiet actions are those of their trials, each as if it came first. -/
theorem log_of_quiet (as : List Action) : ∀ {s : Session} (past : List Event), (∀ a ∈ as, a.isQuiet) →
    s.log past as = past ++ (as.filter (·.isTrial)).filterMap s.event? := by
  induction as with
  | nil => exact fun past _ => (List.append_nil past).symm
  | cons a as ih =>
    intro s past h
    have ha : a.isQuiet = true := h a List.mem_cons_self
    have hevents : (s.step a).event? = s.event? := funext fun c => event?_step_of_quiet ha s c
    have hrest := ih (s := s.step a) (s.logged past a) fun c hc => h c (List.mem_cons_of_mem _ hc)
    rw [log, hrest, logged_of_quiet ha, hevents, List.append_assoc]
    cases he : s.event? a with
    | some e => simp [isTrial_of_event? he, he]
    | none => cases ht : a.isTrial <;> simp [ht, he]

/-- A trial leaves everything behind as it was but statistics and caches. -/
theorem bare_step_of_isTrial {a : Action} (h : a.isTrial = true) (s : Session) : (s.step a).bare = s.bare := by
  cases a with
  | evaluate engine worker ctx times =>
    simp only [step]
    split
    · exact s.bare_evaluate engine worker ctx times
    · rfl
  | record a => rfl
  | _ => cases h

theorem bare_run_filter (as : List Action) : ∀ s : Session,
    (s.run as).bare = (s.run (as.filter (!·.isTrial))).bare := by
  induction as with
  | nil => exact fun _ => rfl
  | cons a as ih =>
    intro s
    cases ht : a.isTrial with
    | false =>
      rw [List.filter_cons_of_pos (by simp [ht])]
      exact ih _
    | true =>
      rw [List.filter_cons_of_neg (by simp [ht])]
      calc ((s.step a).run as).bare
        _ = ((s.step a).run (as.filter (!·.isTrial))).bare := ih _
        _ = ((s.step a).bare.run (as.filter (!·.isTrial))).bare := (run_bare _ _).symm
        _ = (s.bare.run (as.filter (!·.isTrial))).bare := by rw [bare_step_of_isTrial ht]
        _ = (s.run (as.filter (!·.isTrial))).bare := run_bare _ _

/-- The order of the events of the past stays theirs. -/
theorem log_perm (as : List Action) : ∀ (s : Session) {past past' : List Event}, past.Perm past' →
    (s.log past as).Perm (s.log past' as) := by
  induction as with
  | nil => exact fun _ _ _ h => h
  | cons a as ih =>
    intro s past past' h
    refine ih _ ?_
    by_cases ha : a = .resetTelemetry
    · subst ha
      exact .refl _
    · rw [logged_of_ne ha, logged_of_ne ha]
      exact h.append_right _

/-- Trials in another order give the same events, up to the order, now and later. -/
theorem Reordered.log_perm {bs cs : List Action} (h : Reordered bs cs) (s : Session) (past : List Event)
    (later : List Action) : (s.log past (bs ++ later)).Perm (s.log past (cs ++ later)) := by
  have hbare : (s.run bs).bare = (s.run cs).bare := by rw [bare_run_filter bs, bare_run_filter cs, h.others]
  have hevents : (s.log past bs).Perm (s.log past cs) := by
    rw [log_of_quiet bs past h.left, log_of_quiet cs past h.right]
    exact (h.trials.filterMap _).append_left past
  calc s.log past (bs ++ later)
    _ = (s.run bs).bare.log (s.log past bs) later := by rw [log_append, log_bare]
    _ = (s.run cs).bare.log (s.log past bs) later := by rw [hbare]
    _ = (s.run cs).log (s.log past bs) later := log_bare ..
    List.Perm _ ((s.run cs).log (s.log past cs) later) := Session.log_perm later _ hevents
    _ = s.log past (cs ++ later) := (log_append ..).symm

/-! ## Any history -/

/-- **Conservation.** After any actions, exactly the rules that were published or recorded have statistics, each
once. As long as the times of its trials can be added, those of a rule count the events since the last reset that
tried it, and those in which it triggered. A trial whose time cannot be added is counted among the evaluations only;
so a rule never triggered more often than it was tried, but its hits may be fewer than the trials that triggered.
Loads change no counts, and neither does the order of the trials between loads, resets and changes of engines,
whatever comes before and after, if their times can be added. -/
theorem run_conserves (o : Origin) (as : List Action) (id : String) :
    let s := (start o).run as
    let t := s.book.store.telemetry
    let events := (start o).log [] as
    t.OneEach ∧
      (t.HasRule id ↔
        (∃ p ∈ published ((start o).loads as), ∃ r ∈ p.ruleset.rules, r.id = id) ∨
          ∃ a, .record a ∈ as ∧ a.ruleId = id) ∧
      (InRange (trialsOf events) →
        (t.stats id).evaluations = .ofNat (events.countP (·.tries id)) ∧
          (t.stats id).hits = .ofNat (events.countP (·.hits id))) ∧
      (∀ a, t.fits a = false →
        (s.step (.record a)).book.store.telemetry.stats id =
          if id = a.ruleId then { t.stats id with evaluations := (t.stats id).evaluations + 1 } else t.stats id) ∧
      (events.countP (·.tries id) < UInt64.size → (t.stats id).hits ≤ (t.stats id).evaluations) ∧
      ((s.step .reload).book.store.telemetry.stats id = t.stats id ∧
        (s.step .poll).book.store.telemetry.stats id = t.stats id) ∧
      ∀ bs cs later, Reordered bs cs → InRange (trialsOf ((start o).log [] (as ++ bs ++ later))) →
        let left := ((start o).run (as ++ bs ++ later)).book.store.telemetry.stats id
        let right := ((start o).run (as ++ cs ++ later)).book.store.telemetry.stats id
        left.evaluations = right.evaluations ∧ left.hits = right.hits := by
  intro s t events
  have hc : (start o).Coherent := coherent_start o
  have hbalanced (as : List Action) := balanced_run as hc (balanced_start o)
  have hcounts (as : List Action) (h : InRange (trialsOf ((start o).log [] as))) :
      (((start o).run as).book.store.telemetry.stats id).evaluations =
          .ofNat (((start o).log [] as).countP (·.tries id)) ∧
        (((start o).run as).book.store.telemetry.stats id).hits =
          .ofNat (((start o).log [] as).countP (·.hits id)) := by
    have hall := (hbalanced as).counts h
    rw [hall.evaluations, hall.hits, (hbalanced as).tries, (hbalanced as).hits]
    exact ⟨rfl, rfl⟩
  refine ⟨oneEach_run as hc List.nodup_nil, ?_, hcounts as, fun a ha => ?_, ((hbalanced as).atMost id).hits_le,
    ⟨?_, ?_⟩, fun bs cs later h hrange => ?_⟩
  · have hk := hasRule_run as hc (Rulebook.reflects_start o) (hasRule_start o) id
    rwa [List.nil_append, List.nil_append, mem_publishedIds_iff, mem_recordedIds_iff] at hk
  · rw [step, Store.record, Telemetry.recordAll_singleton]
    exact Telemetry.stats_record_of_not_fits ha id
  · rw [step, s.book.loads_reload.telemetry]
    exact Telemetry.stats_register ..
  · rw [step, s.book.checks_poll.telemetry]
    exact Telemetry.stats_register ..
  · have hp : ((start o).log [] (as ++ bs ++ later)).Perm ((start o).log [] (as ++ cs ++ later)) := by
      rw [List.append_assoc, List.append_assoc, log_append, log_append as]
      exact h.log_perm ..
    have hl := hcounts _ hrange
    have hr := hcounts _ (hrange.perm (trialsOf_perm hp))
    exact ⟨hl.1.trans ((congrArg _ (hp.countP_eq _)).trans hr.1.symm),
      hl.2.trans ((congrArg _ (hp.countP_eq _)).trans hr.2.symm)⟩

/-- A rule leaves the rule set after its first trial, is recorded once more, and comes back. One more trial takes too
long to be counted as a hit. Two others may come in any order. -/
theorem run_conserves_comeback :
    let d : Document := ⟨some "1", none, [⟨some "R1", none, some "amount > 1", none, none, none⟩]⟩
    let hit : Action := .record ⟨"R1", true, ⟨5, by decide⟩⟩
    let miss : Action := .record ⟨"R1", false, ⟨7, by decide⟩⟩
    let overlong : Attempt := ⟨"R1", true, .longest⟩
    let as : List Action := [.reload, hit, .replace ⟨some "2", none, []⟩, .reload, miss, .replace d, .reload]
    let s := (start (.memory d)).run as
    let stats (s : Session) := s.book.store.telemetry.stats "R1"
    (InRange (trialsOf ((start (.memory d)).log [] as)) ∧ (stats s).evaluations = 2 ∧ (stats s).hits = 1) ∧
      (s.book.store.telemetry.fits overlong = false ∧
        stats (s.step (.record overlong)) = { stats s with evaluations := (stats s).evaluations + 1 }) ∧
      (stats s).hits ≤ (stats s).evaluations ∧
      Reordered [hit, miss] [miss, hit] ∧
        (stats ((start (.memory d)).run (as ++ [hit, miss] ++ [.reload]))).hits =
          (stats ((start (.memory d)).run (as ++ [miss, hit] ++ [.reload]))).hits := by
  intro d hit miss overlong as s stats
  obtain ⟨-, -, hcounts, hoverlong, hle, -, hreordered⟩ := run_conserves (.memory d) as "R1"
  have hrange : InRange (trialsOf ((start (.memory d)).log [] as)) := inRange_of_sum_le (by decide +kernel)
  have hlong : s.book.store.telemetry.fits overlong = false := by decide +kernel
  have hswap : Reordered [hit, miss] [miss, hit] :=
    ⟨by simp [hit, miss, Action.isQuiet], by simp [hit, miss, Action.isQuiet], .swap .., rfl⟩
  have hlater : InRange (trialsOf ((start (.memory d)).log [] (as ++ [hit, miss] ++ [.reload]))) :=
    inRange_of_sum_le (by decide +kernel)
  obtain ⟨he, hh⟩ := hcounts hrange
  exact ⟨⟨hrange, he.trans (by decide +kernel), hh.trans (by decide +kernel)⟩, ⟨hlong, hoverlong overlong hlong⟩,
    hle (by decide +kernel), hswap, (hreordered _ _ _ hswap hlater).2⟩

/-- Two trials of a rule trigger, each of which takes the longest time that can be told. Only one of them is a hit. -/
theorem run_conserves_overflown :
    let d : Document := ⟨some "1", none, [⟨some "R1", none, some "amount > 1", none, none, none⟩]⟩
    let longest : Action := .record ⟨"R1", true, .longest⟩
    let s := (start (.memory d)).run [.reload, longest, longest]
    let events := (start (.memory d)).log [] [.reload, longest, longest]
    events.countP (·.tries "R1") = 2 ∧ events.countP (·.hits "R1") = 2 ∧
      s.book.store.telemetry.stats "R1" = ⟨1, 2, .longest⟩ := by
  decide +kernel

end Session

end FraudScreen.Rules
