import FraudScreen.Proofs.Rules.LoadHistory

/-!
# Observers make no difference

How the calls of observers end cannot be seen from any answer of a session, nor from anything it keeps: with
observers that always return, every action does the same and answers the same (`Session.step_tamed`,
`Session.answer_tamed`). And an observer is called with what checks of the poller publish while it is in
place, in order, and with nothing else (`Session.notified_run`). The main statement is
`Session.observers_contained`.
-/
namespace FraudScreen.Rules

open Session (Action)

/-! ## Observers that always return -/

/-- An observer that is called when this one is, and always returns. -/
def tame (observer : Option CallResult) : Option CallResult := observer.map fun _ => .returned

/-- The poller with an observer that always returns, if it has one. -/
def Poller.tamed (p : Poller) : Poller := { p with observer := tame p.observer }

/-- The rulebook with an observer that always returns, if it has one. -/
def Rulebook.tamed (b : Rulebook) : Rulebook := { b with poller := b.poller.map Poller.tamed }

/-- The session with an observer that always returns, if it has one. -/
def Session.tamed (s : Session) : Session := { s with book := s.book.tamed }

/-- The action with an observer that always returns, if it brings one. -/
def Session.Action.tamed : Action → Action
  | .enablePolling interval observer => .enablePolling interval (tame observer)
  | a => a

@[simp] theorem isSome_tame (observer : Option CallResult) :
    (tame observer).isSome = observer.isSome := by
  simp [tame]

namespace Rulebook

theorem reload_tamed (b : Rulebook) : b.tamed.reload = (b.reload.1.tamed, b.reload.2) := rfl

/-- A check sees of the observer only whether there is one. -/
theorem poll_tamed (b : Rulebook) : b.tamed.poll = b.poll.tamed ∧ b.tamed.polled = b.polled := by
  by_cases hi : b.Idle
  · have hi' : b.tamed.Idle := by
      intro p' m hp' hm
      obtain ⟨p, hp, rfl⟩ := Option.map_eq_some_iff.1 hp'
      exact hi p m hp hm
    rw [(poll_of_idle hi).1, (poll_of_idle hi).2]
    exact poll_of_idle hi'
  · simp only [Idle, not_forall, Bool.not_eq_true] at hi
    obtain ⟨p, m, hp, hm, hs⟩ := hi
    have hp' : b.tamed.poller = some p.tamed := by simp [tamed, hp]
    have hm' : b.tamed.source.marker? = some m := hm
    have hs' : b.tamed.isSettled p.tamed m = false := hs
    simp only [poll, polled, hp, hm, hs, hp', hm', hs', Bool.false_eq_true, if_false, reload_tamed,
      and_true]
    generalize b.reload = x
    obtain ⟨b', result⟩ := x
    cases result with
    | ok published => simp [notify_eq, tamed, Poller.tamed, Poller.told]
    | error e => simp [tamed, Poller.tamed]

theorem enablePolling_tamed (b : Rulebook) (interval : Nat) (observer : Option CallResult) :
    b.tamed.enablePolling interval (tame observer) = (b.enablePolling interval observer).map tamed := by
  have hp : b.tamed.poller.isSome = b.poller.isSome := by simp [tamed]
  unfold enablePolling
  rw [hp]
  split
  · rfl
  · split
    · rfl
    · split
      · rename_i h
        have h : (!b.store.isInitialized) = true := h
        simp [h, Except.map]
      · rename_i h
        have h : ¬(!b.store.isInitialized) = true := h
        simp [h, Except.map, tamed, Poller.tamed]

end Rulebook

/-! ## Answers -/

namespace Session

/-- What an action answers. -/
inductive Answer where
  | nothing
  /-- A load was made, and ended like this. -/
  | loaded (result : LoadResult)
  /-- A context was evaluated, perhaps without an answer. -/
  | evaluated (result : Option PassResult)
  /-- A trial was recorded, unless its time could not be added. -/
  | recorded (fits : Bool)
  | refused (e : PollingError)

/-- The answer of an action. That of a check of the poller is the load that it makes. -/
def answer (s : Session) : Action → Answer
  | .reload => .loaded s.book.reload.2
  | .poll =>
    match s.book.polled with
    | some result => .loaded result
    | none => .nothing
  | .evaluate engine worker ctx times =>
    if engine ∈ s.engines then .evaluated (s.evaluate engine worker ctx times).2 else .nothing
  | .record a => .recorded (s.book.store.telemetry.fits a)
  | .enablePolling interval observer =>
    match s.book.enablePolling interval observer with
    | .ok _ => .nothing
    | .error e => .refused e
  | _ => .nothing

/-- The answers of actions, in order. -/
def answers (s : Session) : List Action → List Answer
  | [] => []
  | a :: as => s.answer a :: (s.step a).answers as

theorem evaluate_tamed (s : Session) (engine worker : Nat) (ctx : Context) (times : Times) :
    s.tamed.evaluate engine worker ctx times =
      ((s.evaluate engine worker ctx times).1.tamed, (s.evaluate engine worker ctx times).2) := by
  unfold evaluate
  dsimp only
  have hc : s.tamed.book.store = s.book.store := rfl
  rw [hc]
  split <;> rfl

/-- An action does the same whatever observers do. -/
theorem step_tamed (s : Session) (a : Action) : s.tamed.step a.tamed = (s.step a).tamed := by
  cases a with
  | evaluate engine worker ctx times =>
    simp only [Action.tamed, step, evaluate_tamed]
    have he : s.tamed.engines = s.engines := rfl
    rw [he]
    split <;> rfl
  | clearCache engine worker =>
    simp only [Action.tamed, step]
    have he : s.tamed.engines = s.engines := rfl
    rw [he]
    split <;> rfl
  | enablePolling interval observer =>
    have he := s.book.enablePolling_tamed interval observer
    simp only [Action.tamed, step]
    have hb : s.tamed.book = s.book.tamed := rfl
    rw [hb, he]
    cases s.book.enablePolling interval observer <;> rfl
  | poll =>
    simp only [Action.tamed, step, tamed, s.book.poll_tamed.1]
  | replace | write | setOffline | reload | addEngine | dropEngine | record | resetTelemetry
  | disablePolling => rfl

/-- An action answers the same whatever observers do. -/
theorem answer_tamed (s : Session) (a : Action) : s.tamed.answer a.tamed = s.answer a := by
  cases a with
  | evaluate engine worker ctx times =>
    simp only [Action.tamed, answer, evaluate_tamed]
    rfl
  | enablePolling interval observer =>
    have he := s.book.enablePolling_tamed interval observer
    have hb : s.tamed.book = s.book.tamed := rfl
    simp only [Action.tamed, answer]
    rw [hb, he]
    cases s.book.enablePolling interval observer <;> rfl
  | poll =>
    have hb : s.tamed.book = s.book.tamed := rfl
    simp only [Action.tamed, answer]
    rw [hb, s.book.poll_tamed.2]
  | replace | write | setOffline | reload | clearCache | addEngine | dropEngine | record
  | resetTelemetry | disablePolling => rfl

theorem run_tamed (as : List Action) : ∀ s : Session,
    s.tamed.run (as.map Action.tamed) = (s.run as).tamed := by
  induction as with
  | nil => exact fun _ => rfl
  | cons a as ih =>
    intro s
    simp only [List.map_cons, run_cons, step_tamed, ih]

theorem answers_tamed (as : List Action) : ∀ s : Session,
    s.tamed.answers (as.map Action.tamed) = s.answers as := by
  induction as with
  | nil => exact fun _ => rfl
  | cons a as ih =>
    intro s
    simp only [List.map_cons, answers, step_tamed, answer_tamed, ih]

/-! ## Calls -/

/-- What an action puts in force if it is a check of the poller. -/
def publishedByCheck (s : Session) : Action → List Published
  | .poll => published s.book.polled.toList
  | _ => []

/-- What checks of the poller put in force during actions, in order. -/
def publishedByChecks (s : Session) : List Action → List Published
  | [] => []
  | a :: as => s.publishedByCheck a ++ (s.step a).publishedByChecks as

/-- While a poller runs, its observer stays, and is called with what the check publishes. -/
theorem notified_step {s : Session} {p : Poller} {a : Action} (hp : s.book.poller = some p)
    (ho : p.observer.isSome) (ha : a ≠ .disablePolling) :
    (∃ q, (s.step a).book.poller = some q ∧ q.observer = p.observer) ∧
      (s.step a).book.notified = s.book.notified ++ s.publishedByCheck a := by
  cases a with
  | disablePolling => exact absurd rfl ha
  | evaluate engine worker ctx times =>
    simp only [step, publishedByCheck, List.append_nil]
    split
    · obtain ⟨t, e⟩ := s.book_evaluate engine worker ctx times
      rw [e]
      exact ⟨⟨p, hp, rfl⟩, rfl⟩
    · exact ⟨⟨p, hp, rfl⟩, rfl⟩
  | clearCache engine worker =>
    simp only [step, publishedByCheck, List.append_nil]
    split <;> exact ⟨⟨p, hp, rfl⟩, rfl⟩
  | enablePolling interval observer =>
    simp only [step, publishedByCheck, List.append_nil]
    split
    · rename_i hb
      rw [(Rulebook.enablePolling_eq_ok hb).1] at hp
      cases hp
    · exact ⟨⟨p, hp, rfl⟩, rfl⟩
  | poll =>
    have hc := s.book.checks_poll
    simp only [step, publishedByCheck]
    generalize s.book.poll = b', s.book.polled = q at hc
    cases hc with
    | idle => exact ⟨⟨p, hp, rfl⟩, by simp [published]⟩
    | published hp' =>
      rw [hp] at hp'
      cases hp'
      exact ⟨⟨_, rfl, rfl⟩, by simp [published, Poller.told, ho, Except.toOption]⟩
    | failed hp' =>
      rw [hp] at hp'
      cases hp'
      exact ⟨⟨_, rfl, rfl⟩, by simp [published, Rulebook.blamed, Except.toOption]⟩
  | replace | write | setOffline | reload | addEngine | dropEngine | record | resetTelemetry =>
    exact ⟨⟨p, hp, rfl⟩, by simp [publishedByCheck, step, addEngine, dropEngine, Rulebook.reload]⟩

/-- **Calls.** Until the poller is stopped, its observer is called with what checks publish, in order. -/
theorem notified_run : ∀ (as : List Action) {s : Session} {p : Poller}, s.book.poller = some p →
    p.observer.isSome → .disablePolling ∉ as →
    (s.run as).book.notified = s.book.notified ++ s.publishedByChecks as
  | [], s, _, _, _, _ => by simp [publishedByChecks]
  | a :: as, s, p, hp, ho, hd => by
    simp only [List.mem_cons, not_or] at hd
    obtain ⟨⟨q, hq, hqo⟩, hn⟩ := notified_step hp ho (Ne.symm hd.1)
    rw [run_cons, notified_run as hq (hqo ▸ ho) hd.2, hn, List.append_assoc]
    rfl

/-- Without an observer nothing is called. -/
theorem notified_step_unobserved {s : Session} (h : ∀ p, s.book.poller = some p → p.observer = none)
    (a : Action) : (s.step a).book.notified = s.book.notified := by
  have hm := s.moves_step a
  generalize (s.step a).book = b', s.load? a = q at hm
  cases hm with
  | changed | switched | counted | started | stopped => rfl
  | loaded hl => cases hl <;> rfl
  | checked hc =>
    cases hc with
    | idle => rfl
    | published hp => simp [Poller.told, h _ hp]
    | failed => rfl

/-- The calls of observers during actions: each observer is called with what checks of the poller publish from
its enabling on, until the poller is stopped, and nobody is called while there is no observer. -/
structure CallsObservers (s : Session) (as : List Action) : Prop where
  enabled : ∀ front interval result during back book,
    as = front ++ .enablePolling interval (some result) :: (during ++ back) →
    (s.run front).book.enablePolling interval (some result) = .ok book → .disablePolling ∉ during →
    let enabled := (s.run front).step (.enablePolling interval (some result))
    (enabled.run during).book.notified =
      (s.run front).book.notified ++ enabled.publishedByChecks during
  unobserved : ∀ front a back, as = front ++ a :: back →
    (∀ p, (s.run front).book.poller = some p → p.observer = none) →
    ((s.run front).step a).book.notified = (s.run front).book.notified

theorem callsObservers (s : Session) (as : List Action) : s.CallsObservers as := by
  refine ⟨?_, ?_⟩
  · rintro front interval result during back book rfl hb hd enabled
    obtain ⟨-, e⟩ := Rulebook.enablePolling_eq_ok hb
    have hbook : enabled.book = { (s.run front).book with poller := some ⟨none, some result⟩ } := by
      simp only [enabled, step, hb, e]
    rw [notified_run during (p := ⟨none, some result⟩) (by rw [hbook]) rfl hd, hbook]
  · rintro front a back rfl h
    exact notified_step_unobserved h a

/-- **Observers are contained.** Two sessions over one source in which the same actions happen, except that
observers end their calls in other ways, give the same answers and stay the same but for their observers. In
each of them an observer is called with what checks of the poller publish while it is in place, in order, and
with nothing else. -/
theorem observers_contained (o : Origin) {as bs : List Action}
    (h : as.map Action.tamed = bs.map Action.tamed) :
    (start o).answers as = (start o).answers bs ∧
      (∀ n, ((start o).run (as.take n)).tamed = ((start o).run (bs.take n)).tamed) ∧
      (start o).CallsObservers as ∧ (start o).CallsObservers bs := by
  have hstart : (start o).tamed = start o := rfl
  refine ⟨?_, fun n => ?_, callsObservers _ as, callsObservers _ bs⟩
  · rw [← answers_tamed as, ← answers_tamed bs, h]
  · rw [← run_tamed, ← run_tamed, List.map_take, List.map_take, h]

/-- A call that is refused, one that crashes and two that return. -/
theorem observers_contained_crashed :
    let as (first second : CallResult) : List Action :=
      [.reload, .enablePolling 10 (some first), .replace ⟨some "2", none, []⟩, .poll, .disablePolling,
        .enablePolling 20 (some second), .replace ⟨some "3", none, []⟩, .poll, .poll]
    let s := start (.memory ⟨some "1", none, []⟩)
    (as .refused .crashed).map Action.tamed = (as .returned .returned).map Action.tamed ∧
      s.answers (as .refused .crashed) = s.answers (as .returned .returned) ∧
      (s.run (as .refused .crashed)).book.calls = ["2", "3"] := by
  intro as s
  have h : (as .refused .crashed).map Action.tamed = (as .returned .returned).map Action.tamed := rfl
  exact ⟨h, (observers_contained _ h).1, by decide⟩

end Session

end FraudScreen.Rules
