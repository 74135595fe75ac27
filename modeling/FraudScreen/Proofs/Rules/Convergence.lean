import FraudScreen.Proofs.Rules.LoadHistory
import FraudScreen.Proofs.Rules.NoLostUpdate

/-!
# Polling converges

After a check of the poller there is nothing left for a second one to do: the store remembers the marker, or
the poller knows that it failed (`Rulebook.idle_poll`). The invariant `Rulebook.Tracks` says that a remembered
marker which the source still shows belongs to the published rule set. Together: once the marker can be read,
a check leaves the rule set of the document in place, or this document failed to load for the poller that runs
(`Session.poll_converges`).
-/
namespace FraudScreen.Rules

namespace Rulebook

variable {b b' : Rulebook}

/-! ## One check after another -/

/-- A check leaves nothing to do for the next one. -/
theorem idle_poll (b : Rulebook) : b.poll.Idle := by
  have hc := b.checks_poll
  generalize b.poll = b', b.polled = q at hc
  cases hc with
  | idle h => exact h
  | published hp hm hn hr =>
    -- the load remembered the marker that the check had read
    intro p' m' _ hm'
    have hs : b.source.marker? = some m' := hm'
    simp [isSettled, Rulebook.replaced, Store.remember, hs]
  | failed hp hm hn he =>
    rintro p' m' hp' hm'
    have hs : b.source.marker? = some m' := hm'
    rw [hm] at hs
    cases hp'
    simp [isSettled, hs]

theorem poll_poll (b : Rulebook) : b.poll.poll = b.poll := (poll_of_idle b.idle_poll).1

theorem polled_poll (b : Rulebook) : b.poll.polled = none := (poll_of_idle b.idle_poll).2

/-- A check calls the observer at most once. -/
theorem notified_poll (b : Rulebook) :
    ∃ called, b.poll.notified = b.notified ++ called ∧ called.length ≤ 1 := by
  have hc := b.checks_poll
  generalize b.poll = b', b.polled = q at hc
  cases hc with
  | idle => exact ⟨[], by simp, by simp⟩
  | @published p m r =>
    refine ⟨_, rfl, ?_⟩
    unfold Poller.told
    split <;> simp
  | failed => exact ⟨[], by simp [Rulebook.blamed], by simp⟩

/-- A check publishes at most once. -/
theorem publications_poll (b : Rulebook) : b.poll.store.publications ≤ b.store.publications + 1 := by
  have hc := b.checks_poll
  generalize b.poll = b', b.polled = q at hc
  cases hc with
  | idle => omega
  | published => exact Nat.le_refl _
  | failed => exact Nat.le_succ _

/-! ## The remembered marker -/

/-- The remembered marker was shown by the source and, if it is shown still, the published rule set is that of
the document in place. -/
def Tracks (b : Rulebook) : Prop :=
  ∀ m, b.store.marker = some m →
    m ≤ b.source.revision ∧ (m = b.source.revision → b.source.Yields b.store.current.ruleset)

theorem tracks_start (o : Origin) : (start o).Tracks := nofun

theorem Tracks.sameLoads (h : b.Tracks) (hs : b.SameLoads b') (hsource : b'.source = b.source) : b'.Tracks := by
  intro m hm
  rw [hs.store] at hm ⊢
  rw [hsource]
  exact h m hm

/-- No marker that was shown before belongs to a new document. -/
theorem Tracks.change (h : b.Tracks) (o : Origin) : Tracks { b with source := b.source.change o } := by
  intro m hm
  have hle : m ≤ b.source.revision := (h m hm).1
  refine ⟨Nat.le_succ_of_le hle, fun e => ?_⟩
  have e : m = b.source.revision + 1 := e
  rw [e] at hle
  exact absurd hle (Nat.not_succ_le_self _)

/-- Being offline changes neither the document nor its marker. -/
theorem Tracks.setOffline (h : b.Tracks) (document marker : Bool) :
    Tracks { b with source := b.source.setOffline document marker } := h

/-- A load reads the marker with the document, or leaves marker and rule set as they were. -/
theorem Tracks.loads (h : b.Tracks) {result : LoadResult} (hl : b.Loads b' result) : b'.Tracks := by
  cases hl with
  | replaced hr =>
    intro m hm
    have hrev : b.source.revision = m := Source.revision_of_marker? hm
    exact ⟨hrev ▸ Nat.le_refl _, fun _ => Source.yields_of_load hr⟩
  | blamed he => exact h

/-- **One check.** If the marker can be read, a check leaves the rule set of the document in place, or the
poller knows this document as one that failed. -/
theorem Tracks.poll_yields (h : b.Tracks) {p : Poller} {m : Marker} (hp : b.poller = some p)
    (hm : b.source.marker? = some m) :
    b.source.Yields b.poll.store.current.ruleset ∨ ∃ q, b.poll.poller = some q ∧ q.failed = some m := by
  have hc := b.checks_poll
  generalize b.poll = b', b.polled = q at hc
  cases hc with
  | idle hi =>
    have hs := hi p m hp hm
    simp only [isSettled, Bool.or_eq_true, beq_iff_eq] at hs
    rcases hs with hs | hs
    · exact .inl ((h m hs).2 (Source.revision_of_marker? hm).symm)
    · exact .inr ⟨p, hp, hs⟩
  | published _ _ _ hr => exact .inl (Source.yields_of_load hr)
  | failed _ hm' =>
    rw [hm'] at hm
    exact .inr ⟨_, rfl, hm⟩

/-- What an action can do to the rulebook keeps track of the document. -/
theorem Tracks.moves (h : b.Tracks) {q : Option LoadResult} (hm : b.Moves b' q) : b'.Tracks := by
  cases hm with
  | changed o => exact h.change o
  | switched document marker => exact h.setOffline document marker
  | counted | started | stopped => exact h
  | loaded hl => exact h.loads hl
  | checked hc =>
    cases hc with
    | idle => exact h
    | published _ _ _ hr =>
      have ht := h.loads (.replaced hr)
      exact ht
    | failed _ _ _ he => exact h

end Rulebook

/-! ## Sessions -/

namespace Session

/-- **Polling converges.** In whatever state a poller runs, two checks in a row do what one does: they make at
most one load, call the observer at most once and publish at most once. When the marker can be read, a check
leaves the rule set of the document in place, or the running poller knows its marker as that of a failure; and
if it knew that before the check, the check changes nothing. -/
theorem poll_converges (o : Origin) (as : List Action) {p : Poller}
    (hp : ((start o).run as).book.poller = some p) :
    let s := (start o).run as
    s.run [.poll, .poll] = s.run [.poll] ∧
      (s.loads [.poll, .poll]).length ≤ 1 ∧
      (∃ called, (s.run [.poll, .poll]).book.notified = s.book.notified ++ called ∧ called.length ≤ 1) ∧
      (s.run [.poll, .poll]).book.store.publications ≤ s.book.store.publications + 1 ∧
      ∀ m, s.book.source.marker? = some m →
        (s.book.source.Yields (s.run [.poll]).book.store.current.ruleset ∨
          ∃ q, (s.run [.poll]).book.poller = some q ∧ q.failed = some m) ∧
        (p.failed = some m → s.run [.poll] = s) := by
  intro s
  have htwice : s.run [.poll, .poll] = s.run [.poll] := by
    simp only [run_cons, run_nil, step, s.book.poll_poll]
  have htracks : s.book.Tracks :=
    invariant_run (fun _ _ _ h hm => h.moves hm) as (s := start o) (Rulebook.tracks_start o)
  refine ⟨htwice, ?_, ?_, ?_, fun m hm => ⟨htracks.poll_yields hp hm, fun hf => ?_⟩⟩
  · simp only [loads, load?, step, s.book.polled_poll]
    cases s.book.polled <;> simp
  · rw [htwice]
    exact s.book.notified_poll
  · rw [htwice]
    exact s.book.publications_poll
  · -- a marker that failed for the poller asks for nothing
    have hi : s.book.Idle := by
      intro p' m' hp' hm'
      rw [hp] at hp'
      rw [hm] at hm'
      cases hp'
      cases hm'
      simp [Rulebook.isSettled, hf]
    simp only [run_cons, run_nil, step, (Rulebook.poll_of_idle hi).1]

/-- A document fails to load for one poller by its thresholds, and for the next one because it is offline. When
another document takes its place, the second poller has a check to make, and makes it once. -/
theorem poll_converges_recovered :
    let bad : Document := ⟨some "2", some ⟨some 90, some 10⟩, []⟩
    let s := (start (.memory ⟨some "1", none, []⟩)).run [.reload, .enablePolling 10 (some .returned),
      .replace bad, .poll, .disablePolling, .enablePolling 5 none, .setOffline true false, .poll,
      .setOffline false false, .replace ⟨some "3", none, []⟩]
    s.book.poller.map (·.failed) = some (some 2) ∧ s.book.source.marker? = some 3 ∧
      s.run [.poll, .poll] = s.run [.poll] ∧ (s.loads [.poll, .poll]).length ≤ 1 ∧
      (s.book.source.Yields (s.run [.poll]).book.store.current.ruleset ∨
        ∃ q, (s.run [.poll]).book.poller = some q ∧ q.failed = some 3) := by
  intro bad s
  have hf : s.book.poller.map (·.failed) = some (some 2) := by decide
  have hm : s.book.source.marker? = some 3 := by decide
  obtain ⟨p, hp, -⟩ := Option.map_eq_some_iff.1 hf
  obtain ⟨htwice, hone, -, -, hcheck⟩ := poll_converges _ _ hp
  exact ⟨hf, hm, htwice, hone, (hcheck 3 hm).1⟩

end Session

end FraudScreen.Rules
