import FraudScreen.Proofs.Rules.Publication

/-!
# The history of loads

Rules are loaded when a caller asks for it, or when a check of the poller sees a need. `Session.loads` lists
how the loads of a run ended. A load either replaces the rule set in force or leaves everything but the last
error alone (`Store.Replaced`, `Store.Kept`), and what a rulebook shows of its loads is always what their list
says (`Rulebook.Reflects`): `Session.run_reflects_loads`.
-/
namespace FraudScreen.Rules

/-- How a load ended. -/
abbrev LoadResult := Except LoadError Published

/-- What loads put in force, in order. -/
def published (past : List LoadResult) : List Published := past.filterMap (·.toOption)

/-- The error of a load that failed. -/
def LoadResult.error? : LoadResult → Option LoadError
  | .ok _ => none
  | .error e => some e

/-! ## Statistics of new rules -/

namespace Telemetry

/-- The identifiers without statistics. -/
def unknown (t : Telemetry) (ids : List String) : List String := ids.filter fun id => (t.lookup id).isNone

theorem update_of_known {t : Telemetry} {id : String} (h : t.lookup id ≠ none) : t.update id (·) = t := by
  induction t with
  | nil => exact absurd rfl h
  | cons p rest ih =>
    obtain ⟨name, s⟩ := p
    by_cases hn : name = id
    · simp [update, hn]
    · have hb : (id == name) = false := by simpa using Ne.symm hn
      rw [List.lookup_cons, hb] at h
      simp [update, hn, ih h]

theorem update_of_unknown {t : Telemetry} {id : String} (h : t.lookup id = none) (f : RuleStats → RuleStats) :
    t.update id f = t ++ [(id, f .zero)] := by
  induction t with
  | nil => rfl
  | cons p rest ih =>
    obtain ⟨name, s⟩ := p
    by_cases hn : name = id
    · simp [hn] at h
    · have hb : (id == name) = false := by simpa using Ne.symm hn
      rw [List.lookup_cons, hb] at h
      simp [update, hn, ih h]

/-- Rules that become known get statistics at the end, and those that are known keep theirs. -/
theorem register_eq_append : ∀ (ids : List String) (t : Telemetry), ids.Nodup →
    t.register ids = t ++ (t.unknown ids).map fun id => (id, .zero)
  | [], t, _ => by simp [register, unknown]
  | id :: ids, t, hd => by
    obtain ⟨hid, hd⟩ := List.nodup_cons.1 hd
    have hstep : t.register (id :: ids) = (t.update id (·)).register ids := rfl
    rw [hstep]
    cases h : t.lookup id with
    | some s =>
      rw [update_of_known (by simp [h]), register_eq_append ids t hd]
      simp [unknown, h]
    | none =>
      rw [update_of_unknown h, register_eq_append ids _ hd]
      -- the new entry hides none of the other identifiers
      have hu : unknown (t ++ [(id, .zero)]) ids = t.unknown ids := by
        refine List.filter_congr fun x hx => ?_
        have hb : (x == id) = false := by
          have hne : x ≠ id := fun e => hid (e ▸ hx)
          simpa using hne
        simp [List.lookup_append, List.lookup_cons, hb]
      rw [hu]
      simp [unknown, h]

end Telemetry

/-! ## What a check of the poller can do -/

/-- With what the observer of a poller is called when a rule set is published: with this, if there is one. -/
def Poller.told (p : Poller) (x : Published) : List Published := if p.observer.isSome then [x] else []

namespace Rulebook

theorem notify_eq (b : Rulebook) (p : Poller) (x : Published) :
    b.notify p x = { b with notified := b.notified ++ p.told x } := by
  obtain ⟨failed, observer⟩ := p
  cases observer with
  | none => simp [notify, Poller.told]
  | some result => cases result <;> rfl

/-- The load that a check of the poller makes, if it makes one. -/
def polled (b : Rulebook) : Option LoadResult :=
  match b.poller, b.source.marker? with
  | some p, some m => if b.isSettled p m then none else some b.reload.2
  | _, _ => none

/-- The rulebook after a load that put `r` in force. -/
def replaced (b : Rulebook) (r : Ruleset) : Rulebook :=
  { b with
    store := (b.store.publish r).remember b.source.marker?
    metrics := b.metrics.countReload true }

/-- The rulebook after a load that failed. -/
def blamed (b : Rulebook) (e : LoadError) : Rulebook :=
  { b with store := b.store.blame e, metrics := b.metrics.countReload false }

/-- What a load can do: what becomes of the rulebook, and how the load ends. -/
inductive Loads (b : Rulebook) : Rulebook → LoadResult → Prop where
  | replaced {r : Ruleset} (hr : b.source.load = .ok r) :
    Loads b (b.replaced r) (.ok ⟨r, b.store.publications + 1⟩)
  | blamed {e : LoadError} (he : b.source.load = .error e) : Loads b (b.blamed e) (.error e)

theorem loads_reload (b : Rulebook) : b.Loads b.reload.1 b.reload.2 := by
  obtain ⟨r, hr, e⟩ | ⟨x, hx, e⟩ := b.store.reload_cases b.source
  · have h : b.reload = (b.replaced r, .ok ⟨r, b.store.publications + 1⟩) := by
      simp [reload, Rulebook.replaced, e, Except.toBool]
    rw [h]
    exact .replaced hr
  · have h : b.reload = (b.blamed x, .error x) := by
      simp [reload, Rulebook.blamed, e, Except.toBool]
    rw [h]
    exact .blamed hx

/-- A check of the poller has nothing to do: there is no poller, no marker or no need. -/
def Idle (b : Rulebook) : Prop :=
  ∀ p m, b.poller = some p → b.source.marker? = some m → b.isSettled p m = true

/-- What a check of the poller can do: what becomes of the rulebook, and the load that was made. -/
inductive Checks (b : Rulebook) : Rulebook → Option LoadResult → Prop where
  | idle (h : b.Idle) : Checks b b none
  | published {p : Poller} {m : Marker} {r : Ruleset} (hp : b.poller = some p)
    (hm : b.source.marker? = some m) (hn : b.isSettled p m = false) (hr : b.source.load = .ok r) :
    Checks b
      { b.replaced r with
        poller := some { p with failed := none }
        notified := b.notified ++ p.told ⟨r, b.store.publications + 1⟩ }
      (some (.ok ⟨r, b.store.publications + 1⟩))
  | failed {p : Poller} {m : Marker} {e : LoadError} (hp : b.poller = some p)
    (hm : b.source.marker? = some m) (hn : b.isSettled p m = false) (he : b.source.load = .error e) :
    Checks b { b.blamed e with poller := some { p with failed := some m } } (some (.error e))

theorem poll_of_idle {b : Rulebook} (h : b.Idle) : b.poll = b ∧ b.polled = none := by
  constructor
  · unfold poll
    split
    · rename_i p m hp hm
      simp [h p m hp hm]
    · rfl
  · unfold polled
    split
    · rename_i p m hp hm
      simp [h p m hp hm]
    · rfl

theorem checks_poll (b : Rulebook) : b.Checks b.poll b.polled := by
  by_cases hi : b.Idle
  · rw [(poll_of_idle hi).1, (poll_of_idle hi).2]
    exact .idle hi
  · simp only [Idle, not_forall, Bool.not_eq_true] at hi
    obtain ⟨p, m, hp, hm, hs⟩ := hi
    have hq : b.polled = some b.reload.2 := by simp [polled, hp, hm, hs]
    rw [hq]
    unfold poll
    simp only [hp, hm, hs, Bool.false_eq_true, if_false]
    have hl := b.loads_reload
    generalize b.reload = x at hl
    obtain ⟨b', result⟩ := x
    cases hl with
    | replaced hr =>
      simp only [notify_eq]
      exact .published hp hm hs hr
    | blamed he => exact .failed hp hm hs he

/-- What an action of a session can do to its rulebook, and the load that it makes. -/
inductive Moves (b : Rulebook) : Rulebook → Option LoadResult → Prop where
  | changed (o : Origin) : Moves b { b with source := b.source.change o } none
  | switched (document marker : Bool) : Moves b { b with source := b.source.setOffline document marker } none
  /-- At most the statistics change. -/
  | counted (t : Telemetry) : Moves b { b with store := { b.store with telemetry := t } } none
  | started (observer : Option CallResult) (hp : b.poller = none) :
    Moves b { b with poller := some ⟨none, observer⟩ } none
  | stopped : Moves b { b with poller := none } none
  | loaded {b' : Rulebook} {result : LoadResult} (hl : b.Loads b' result) : Moves b b' (some result)
  | checked {b' : Rulebook} {q : Option LoadResult} (hc : b.Checks b' q) : Moves b b' q

theorem moves_self (b : Rulebook) : b.Moves b none := .counted b.store.telemetry

theorem moves_replace (b : Rulebook) (d : Document) :
    b.Moves { b with source := b.source.replace d } none := by
  unfold Source.replace
  split
  · exact .changed _
  · exact b.moves_self

theorem moves_write (b : Rulebook) (content : File) :
    b.Moves { b with source := b.source.write content } none := by
  unfold Source.write
  split
  · exact b.moves_self
  · exact .changed _

/-- Polling can be enabled while no poller runs, and then one runs that knows of no failure. -/
theorem enablePolling_eq_ok {b b' : Rulebook} {interval : Nat} {observer : Option CallResult}
    (h : b.enablePolling interval observer = .ok b') :
    b.poller = none ∧ b' = { b with poller := some ⟨none, observer⟩ } := by
  unfold enablePolling at h
  split at h
  · cases h
  · split at h
    · cases h
    · rename_i hp
      split at h
      · cases h
      · exact ⟨by simpa using hp, (Except.ok.inj h).symm⟩

end Rulebook

/-! ## What a load does -/

/-- A store of which a load that failed changed nothing but the last error. -/
structure Store.Kept (s t : Store) : Prop where
  current : t.current = s.current
  marker : t.marker = s.marker
  telemetry : t.telemetry = s.telemetry

/-- A store in which a load put the rule set of the document that it read in force, after `earlier` ones. -/
structure Store.Replaced (s t : Store) (source : Source) (earlier : List Published) (p : Published) :
    Prop where
  current : t.current = p
  built : ∃ d, source.read = .ok d ∧ Ruleset.ofDocument d = .ok p.ruleset
  newer : ∀ q ∈ earlier, q.generation < p.generation
  marker : t.marker = source.marker?
  /-- Rules without statistics get some, and no others change. -/
  telemetry : t.telemetry =
    s.telemetry ++ (s.telemetry.unknown (p.ruleset.rules.map (·.id))).map fun id => (id, .zero)

/-- A rulebook that still shows the same of its loads: at most the statistics of its store changed. -/
structure Rulebook.SameLoads (b b' : Rulebook) : Prop where
  store : b'.store = { b.store with telemetry := b'.store.telemetry }
  metrics : b'.metrics = b.metrics

/-- What a rulebook shows of the loads made so far. -/
structure Rulebook.Reflects (b : Rulebook) (past : List LoadResult) : Prop where
  current : b.store.current = (published past).getLast?.getD .initial
  initialized : b.store.isInitialized = true ↔ ∃ p, .ok p ∈ past
  /-- The last error is that of the last load, if it failed. -/
  lastError : b.store.lastError = past.getLast?.bind LoadResult.error?
  reloads : b.metrics.reloads = past.length
  reloadErrors : b.metrics.reloadErrors = past.countP (!·.toBool)
  /-- Publications are numbered from one on. -/
  numbers : (published past).map (·.generation) = List.range' 1 b.store.publications

theorem Source.read_of_load {source : Source} {r : Ruleset} (h : source.load = .ok r) :
    ∃ d, source.read = .ok d ∧ Ruleset.ofDocument d = .ok r := by
  unfold load at h
  split at h
  · cases h
  · rename_i d hd
    split at h
    · rename_i hr
      cases h
      exact ⟨d, hd, hr⟩
    · cases h

theorem published_append (past : List LoadResult) (result : LoadResult) :
    published (past ++ [result]) = published past ++ result.toOption.toList := by
  cases result <;> simp [published, Except.toOption]

namespace Rulebook

variable {b b' : Rulebook} {past : List LoadResult}

theorem reflects_start (o : Origin) : (start o).Reflects [] := by
  refine ⟨rfl, ?_, rfl, rfl, rfl, rfl⟩
  simp [start, Store.empty, Store.isInitialized, Published.initial]

theorem Reflects.sameLoads (h : b.Reflects past) (hs : b.SameLoads b') : b'.Reflects past := by
  obtain ⟨hstore, hmetrics⟩ := hs
  have hc : b'.store.current = b.store.current := by rw [hstore]
  refine ⟨?_, ?_, ?_, ?_, ?_, ?_⟩
  · rw [hc]
    exact h.current
  · rw [← h.initialized, Store.isInitialized, Store.isInitialized, hc]
  · rw [hstore]
    exact h.lastError
  · rw [hmetrics]
    exact h.reloads
  · rw [hmetrics]
    exact h.reloadErrors
  · rw [hstore]
    exact h.numbers

theorem Reflects.loads (h : b.Reflects past) {result : LoadResult} (hl : b.Loads b' result) :
    b'.Reflects (past ++ [result]) := by
  cases hl with
  | @replaced r hr =>
    refine ⟨?_, ?_, ?_, ?_, ?_, ?_⟩
    · simp [published_append, Except.toOption, Rulebook.replaced, Store.publish, Store.remember]
    · simp [Rulebook.replaced, Store.publish, Store.remember, Store.isInitialized]
    · simp [Rulebook.replaced, Store.publish, Store.remember, LoadResult.error?]
    · simp [Rulebook.replaced, Metrics.countReload, h.reloads]
    · simp [Rulebook.replaced, Metrics.countReload, h.reloadErrors, Except.toBool]
    · simp only [published_append, Except.toOption, Option.toList, List.map_append, h.numbers,
        Rulebook.replaced, Store.publish, Store.remember, List.range'_concat]
      simp [Nat.add_comm]
  | @blamed e he =>
    have hp : published (past ++ [.error e]) = published past := by
      simp [published_append, Except.toOption]
    refine ⟨?_, ?_, ?_, ?_, ?_, ?_⟩
    · rw [hp]
      exact h.current
    · simp only [List.mem_append, List.mem_singleton, reduceCtorEq, or_false]
      exact h.initialized
    · simp [Rulebook.blamed, Store.blame, LoadResult.error?]
    · simp [Rulebook.blamed, Metrics.countReload, h.reloads]
    · simp [Rulebook.blamed, Metrics.countReload, h.reloadErrors, Except.toBool]
    · rw [hp]
      exact h.numbers

/-- Without a load, what is shown of loads stays. -/
theorem Moves.sameLoads (hm : b.Moves b' none) : b.SameLoads b' := by
  cases hm with
  | changed | switched | counted | started | stopped => exact ⟨rfl, rfl⟩
  | checked hc =>
    cases hc with
    | idle => exact ⟨rfl, rfl⟩

/-- Whoever asks for a load, it does the same to store and counters. -/
theorem Moves.loads {result : LoadResult} (hm : b.Moves b' (some result)) :
    ∃ c, b.Loads c result ∧ b'.store = c.store ∧ b'.metrics = c.metrics := by
  cases hm with
  | loaded hl => exact ⟨b', hl, rfl, rfl⟩
  | checked hc =>
    cases hc with
    | published _ _ _ hr => exact ⟨_, .replaced hr, rfl, rfl⟩
    | failed _ _ _ he => exact ⟨_, .blamed he, rfl, rfl⟩

theorem Reflects.moves (h : b.Reflects past) {q : Option LoadResult} (hm : b.Moves b' q) :
    b'.Reflects (past ++ q.toList) := by
  cases q with
  | none => simpa using h.sameLoads hm.sameLoads
  | some result =>
    obtain ⟨c, hl, hstore, hmetrics⟩ := hm.loads
    exact (h.loads hl).sameLoads ⟨by rw [hstore], hmetrics⟩

/-- A load that fails keeps the store. -/
theorem Loads.kept {e : LoadError} (hl : b.Loads b' (.error e)) : b.store.Kept b'.store := by
  cases hl with
  | blamed he => exact ⟨rfl, rfl, rfl⟩

theorem Reflects.generation_le (h : b.Reflects past) {q : Published} (hq : q ∈ published past) :
    q.generation ≤ b.store.publications := by
  have hm : q.generation ∈ (published past).map (·.generation) := List.mem_map_of_mem hq
  rw [h.numbers, List.mem_range'_1] at hm
  omega

/-- A load that succeeds replaces the rule set in force. -/
theorem Reflects.replaced (h : b.Reflects past) {p : Published} (hl : b.Loads b' (.ok p)) :
    b.store.Replaced b'.store b.source (published past) p := by
  cases hl with
  | @replaced r hr =>
    refine ⟨rfl, Source.read_of_load hr, ?_, rfl, ?_⟩
    · intro q hq
      have := h.generation_le hq
      show q.generation < b.store.publications + 1
      omega
    · exact Telemetry.register_eq_append _ _ (idsUnique_of_load hr)

end Rulebook

/-! ## Loads of a run -/

namespace Session

/-- The load that an action makes, if it makes one. -/
def load? (s : Session) : Action → Option LoadResult
  | .reload => some s.book.reload.2
  | .poll => s.book.polled
  | _ => none

/-- How the loads that actions make end, in order. -/
def loads (s : Session) : List Action → List LoadResult
  | [] => []
  | a :: as => (s.load? a).toList ++ (s.step a).loads as

/-- An evaluation changes nothing of the rulebook but its statistics. -/
theorem book_evaluate (s : Session) (engine worker : Nat) (ctx : Context) (times : Times) :
    ∃ t, (s.evaluate engine worker ctx times).1.book =
      { s.book with store := { s.book.store with telemetry := t } } := by
  unfold evaluate
  dsimp only
  split
  · obtain ⟨t, e⟩ := s.book.store.exists_finishPass s.book.store.current.ruleset.version times
      ((s.caches.get engine worker).run s.book.store.current ctx).2
    exact ⟨t, congrArg (fun store => { s.book with store }) e⟩
  · exact ⟨s.book.store.telemetry, rfl⟩

/-- Everything an action can do to the rulebook. -/
theorem moves_step (s : Session) (a : Action) : s.book.Moves (s.step a).book (s.load? a) := by
  cases a with
  | replace d => exact s.book.moves_replace d
  | write content => exact s.book.moves_write content
  | setOffline document marker => exact .switched document marker
  | reload => exact .loaded s.book.loads_reload
  | evaluate engine worker ctx times =>
    simp only [step]
    split
    · obtain ⟨t, e⟩ := s.book_evaluate engine worker ctx times
      rw [e]
      exact .counted t
    · exact s.book.moves_self
  | clearCache engine worker =>
    simp only [step]
    split <;> exact s.book.moves_self
  | addEngine => exact s.book.moves_self
  | dropEngine engine => exact s.book.moves_self
  | record a => exact .counted _
  | resetTelemetry => exact .counted _
  | enablePolling interval observer =>
    simp only [step]
    split
    · rename_i hb
      obtain ⟨hp, rfl⟩ := Rulebook.enablePolling_eq_ok hb
      exact .started observer hp
    · exact s.book.moves_self
  | disablePolling => exact .stopped
  | poll => exact .checked s.book.checks_poll

/-- What every action keeps of the rulebook, a run keeps. -/
theorem invariant_run {Keeps : Rulebook → Prop}
    (hmoves : ∀ b b' q, Keeps b → b.Moves b' q → Keeps b')
    (as : List Action) : ∀ {s : Session}, Keeps s.book → Keeps (s.run as).book := by
  induction as with
  | nil => exact fun h => h
  | cons a as ih =>
    intro s h
    exact ih (hmoves _ _ _ h (s.moves_step a))

theorem reflects_run (as : List Action) : ∀ {s : Session} {past : List LoadResult},
    s.book.Reflects past → (s.run as).book.Reflects (past ++ s.loads as) := by
  induction as with
  | nil =>
    intro s past h
    simpa [loads] using h
  | cons a as ih =>
    intro s past h
    have hstep := ih (h.moves (s.moves_step a))
    rwa [List.append_assoc] at hstep

/-- Starting and stopping the poller touches neither the store nor the counters. -/
theorem step_switch (s : Session) {a : Action}
    (h : (∃ interval observer, a = .enablePolling interval observer) ∨ a = .disablePolling) :
    (s.step a).book.store = s.book.store ∧ (s.step a).book.metrics = s.book.metrics := by
  rcases h with ⟨interval, observer, rfl⟩ | rfl
  · simp only [step]
    split
    · rename_i hb
      obtain ⟨-, rfl⟩ := Rulebook.enablePolling_eq_ok hb
      exact ⟨rfl, rfl⟩
    · exact ⟨rfl, rfl⟩
  · exact ⟨rfl, rfl⟩

/-- **All or nothing.** After any actions whatever, a rulebook shows what the list of its loads says. A next
action that makes no load leaves all of this as it is; one that makes a load which fails keeps the rule set in
force, the marker and the statistics, and one that makes a load which succeeds replaces them. Starting and
stopping the poller makes no difference to any of this. -/
theorem run_reflects_loads (o : Origin) (as : List Action) (a : Action) :
    let s := (start o).run as
    let past := (start o).loads as
    s.book.Reflects past ∧
      (match s.load? a with
        | none => s.book.SameLoads (s.step a).book
        | some (.error _) => s.book.store.Kept (s.step a).book.store
        | some (.ok p) =>
          s.book.store.Replaced (s.step a).book.store s.book.source (published past) p) ∧
      ((∃ interval observer, a = .enablePolling interval observer) ∨ a = .disablePolling →
        (s.step a).book.store = s.book.store ∧ (s.step a).book.metrics = s.book.metrics) := by
  intro s past
  have h : s.book.Reflects past := reflects_run as (s := start o) (Rulebook.reflects_start o)
  refine ⟨h, ?_, s.step_switch⟩
  have hm := s.moves_step a
  cases hq : s.load? a with
  | none =>
    rw [hq] at hm
    exact hm.sameLoads
  | some result =>
    rw [hq] at hm
    obtain ⟨b', hl, hstore, -⟩ := hm.loads
    cases result with
    | ok p => exact hstore ▸ h.replaced hl
    | error e => exact hstore ▸ hl.kept

end Session

end FraudScreen.Rules
