import FraudScreen.Rules.Interleaving

/-!
# No update is lost

A load remembers the marker that it read before the document. So as long as the source still shows the
remembered marker, nothing has changed since, and the document in place is the published one
(`Loading.published_of_marker_eq`). All it takes is that no marker is ever shown for two documents. The
invariant `Loading.Sound` says what is known at each stage of a load about a marker that is still shown.
-/
namespace FraudScreen.Rules

/-- The document in place makes this rule set, whether or not it can be read at the moment. -/
def Source.Yields (s : Source) (r : Ruleset) : Prop := { s with documentOffline := false }.load = .ok r

theorem Source.yields_of_load {s : Source} {r : Ruleset} (h : s.load = .ok r) : s.Yields r := by
  cases hs : s.documentOffline with
  | true => simp [load, read, hs] at h
  | false => rw [Yields, ← hs]; exact h

theorem Source.revision_of_marker? {s : Source} {m : Marker} (h : s.marker? = some m) : s.revision = m := by
  unfold marker? at h
  split at h
  · cases h
  · split at h
    · cases h
    · exact Option.some.inj h

namespace Loading

/-- The marker that comes with a change of the document. -/
def Event.marker? : Event → Option Marker
  | .change _ m => some m
  | _ => none

/-- The markers that a source shows one after another. -/
def shownMarkers (source : Source) (es : List Event) : List Marker :=
  source.revision :: es.filterMap Event.marker?

/-- A marker that was shown and, if it is shown still, belongs to the document that makes `r`. -/
def Vouches (shown : List Marker) (source : Source) (m : Marker) (r : Ruleset) : Prop :=
  m ∈ shown ∧ (m = source.revision → source.Yields r)

/-- What is known about the markers of a load under way. -/
def Stage.Sound (shown : List Marker) (source : Source) (store : Store) : Stage → Prop
  | .started m => ∀ x, m = some x → x ∈ shown
  | .read m (.ok r) => ∀ x, m = some x ∨ store.marker = some x → Vouches shown source x r
  | .read m (.error _) => ∀ x, m = some x → x ∈ shown
  | .published m => ∀ x, m = some x → Vouches shown source x store.current.ruleset

/-- The invariant: the remembered marker vouches for the published rule set, and the load under way, if
there is one, will leave a marker that does. -/
structure Sound (shown : List Marker) (l : Loading) : Prop where
  source : l.source.revision ∈ shown
  store : ∀ x, l.store.marker = some x → Vouches shown l.source x l.store.current.ruleset
  load : ∀ w, l.load = some w → Stage.Sound shown l.source l.store w.stage

variable {shown : List Marker} {l : Loading}

theorem sound_start (source : Source) : Sound [source.revision] (start source) :=
  ⟨List.mem_cons_self .., nofun, nofun⟩

/-! ## Changes of the source -/

/-- A fresh marker is not the one that a past marker was read as, so nothing is claimed any more. -/
theorem Vouches.change {source t : Source} {m : Marker} {r : Ruleset}
    (h : Vouches shown source m r) (hf : t.revision ∉ shown) :
    Vouches (t.revision :: shown) t m r :=
  ⟨List.mem_cons_of_mem _ h.1, fun e => absurd (e ▸ h.1) hf⟩

theorem Stage.Sound.change {source t : Source} {store : Store} {g : Stage}
    (h : Stage.Sound shown source store g) (hf : t.revision ∉ shown) :
    Stage.Sound (t.revision :: shown) t store g := by
  match g, h with
  | .started _, h => exact fun x hx => List.mem_cons_of_mem _ (h x hx)
  | .read _ (.ok _), h => exact fun x hx => (h x hx).change hf
  | .read _ (.error _), h => exact fun x hx => List.mem_cons_of_mem _ (h x hx)
  | .published _, h => exact fun x hx => (h x hx).change hf

theorem Sound.change (h : Sound shown l) (o : Origin) {m : Marker} (hf : m ∉ shown) :
    Sound (m :: shown) (l.step (.change o m)) := by
  let source : Source := { l.source with origin := o, revision := m }
  refine ⟨List.mem_cons_self .., ?_, ?_⟩
  · intro x hx
    exact (h.store x hx).change (t := source) hf
  · intro w hw
    exact (h.load w hw).change (t := source) hf

/-- Being offline changes neither the document nor its marker. -/
theorem Sound.setOffline (h : Sound shown l) (document marker : Bool) :
    Sound shown (l.step (.setOffline document marker)) := by
  refine ⟨h.source, h.store, fun w hw => ?_⟩
  have hg := h.load w hw
  match w, hg with
  | ⟨.started _, _⟩, hg => exact hg
  | ⟨.read _ (.ok _), _⟩, hg => exact hg
  | ⟨.read _ (.error _), _⟩, hg => exact hg
  | ⟨.published _, _⟩, hg => exact hg

/-! ## The poller and the load -/

theorem Sound.look (h : Sound shown l) : Sound shown l.look := by
  unfold Loading.look
  split
  · exact h
  · exact ⟨h.source, h.store, h.load⟩

theorem Sound.check (h : Sound shown l) : Sound shown l.check := by
  unfold Loading.check
  split
  · exact h
  · split
    · exact ⟨h.source, h.store, h.load⟩
    · exact ⟨h.source, h.store, h.load⟩

theorem Sound.begin (h : Sound shown l) (byPoller : Bool) : Sound shown (l.begin byPoller) := by
  unfold Loading.begin
  split
  · exact h
  · refine ⟨h.source, h.store, fun w hw => ?_⟩
    cases hw
    intro x hx
    rw [← Source.revision_of_marker? hx]
    exact h.source

/-- A load that ends leaves source and store as they are. -/
theorem Sound.finish (hs : l.source.revision ∈ shown)
    (hm : ∀ x, l.store.marker = some x → Vouches shown l.source x l.store.current.ruleset)
    (byPoller succeeded : Bool) : Sound shown (l.finish byPoller succeeded) := by
  unfold Loading.finish
  split
  · exact ⟨hs, hm, nofun⟩
  · exact ⟨hs, hm, nofun⟩

/-- The document is read after the marker. If the marker read, or the remembered one, is still shown, then
it is this document's. -/
theorem Sound.read (h : Sound shown l) {m : Option Marker} {p : Bool} (hl : l.load = some ⟨.started m, p⟩) :
    Sound shown { l with load := some ⟨.read m l.source.load, p⟩ } := by
  have hg : ∀ x, m = some x → x ∈ shown := h.load _ hl
  refine ⟨h.source, h.store, fun w hw => ?_⟩
  cases hw
  cases hr : l.source.load with
  | error e => exact hg
  | ok r =>
    intro x hx
    refine ⟨?_, fun _ => Source.yields_of_load hr⟩
    rcases hx with hx | hx
    · exact hg x hx
    · exact (h.store x hx).1

theorem Sound.advance (h : Sound shown l) : Sound shown l.advance := by
  unfold Loading.advance
  split
  · exact h
  · rename_i m p hl
    exact h.read hl
  · rename_i m r p hl
    have hg : ∀ x, m = some x ∨ l.store.marker = some x → Vouches shown l.source x r := h.load _ hl
    refine ⟨h.source, ?_, ?_⟩
    · intro x hx
      exact hg x (.inr hx)
    · intro w hw
      cases hw
      intro x hx
      exact hg x (.inl hx)
  · rename_i e p hl
    exact Sound.finish (l := { l with store := l.store.blame e }) h.source h.store p false
  · rename_i m p hl
    exact Sound.finish (l := { l with store := l.store.remember m }) h.source (h.load _ hl) p true

/-! ## Runs -/

theorem Sound.run (es : List Event) :
    ∀ {shown : List Marker} {l : Loading}, Sound shown l → (es.filterMap Event.marker?).Nodup →
      (∀ m ∈ es.filterMap Event.marker?, m ∉ shown) → ∃ shown', Sound shown' (l.run es) := by
  induction es with
  | nil =>
    intro shown l h _ _
    exact ⟨shown, h⟩
  | cons e es ih =>
    intro shown l h hd hf
    cases e with
    | change o m =>
      simp only [List.filterMap_cons, Event.marker?, List.nodup_cons, List.forall_mem_cons] at hd hf
      refine ih (h.change o hf.1) hd.2 ?_
      intro x hx hm
      rcases List.mem_cons.1 hm with rfl | hm
      · exact hd.1 hx
      · exact hf.2 x hx hm
    | setOffline document marker => exact ih (h.setOffline document marker) hd hf
    | look => exact ih h.look hd hf
    | check => exact ih h.check hd hf
    | begin byPoller => exact ih (h.begin byPoller) hd hf
    | advance => exact ih h.advance hd hf

/-- **No update is lost.** Whatever happens between the steps of loads: when the remembered marker is the one
that the source shows, the published rule set is that of the document in place. So when the poller has read
the marker that is shown, and asks for no load although none failed at it, there is nothing to publish. -/
theorem published_of_marker_eq (source : Source) {es : List Event} (h : (shownMarkers source es).Nodup) :
    let l := (start source).run es
    (l.store.marker = some l.source.revision → l.source.Yields l.store.current.ruleset) ∧
      (l.seen = some l.source.revision → l.failed ≠ some l.source.revision → l.check.wanted = none →
        l.source.Yields l.store.current.ruleset) := by
  intro l
  obtain ⟨hne, hd⟩ := List.nodup_cons.1 h
  have hfresh : ∀ m ∈ es.filterMap Event.marker?, m ∉ [source.revision] := by
    intro m hm he
    rw [List.mem_singleton.1 he] at hm
    exact hne hm
  obtain ⟨shown, hs⟩ := (sound_start source).run es hd hfresh
  have hm : l.store.marker = some l.source.revision → l.source.Yields l.store.current.ruleset := by
    intro e
    exact (hs.store _ e).2 rfl
  refine ⟨hm, ?_⟩
  intro hseen hfailed hskip
  apply hm
  simp only [check, hseen, Bool.or_eq_true, beq_iff_eq] at hskip
  split at hskip
  · rename_i hk
    exact hk.resolve_right hfailed
  · cases hskip

/-- The document changes between the two reads of a load. The load publishes the new one and remembers the old
marker; the poller then loads once more, which remembers the new one. When the poller looks again, it has nothing to
ask for. -/
theorem published_of_marker_eq_raced :
    let source : Source := .start (.memory ⟨some "1", none, []⟩)
    let es : List Event := [.begin false, .change (.memory ⟨some "2", none, []⟩) 2, .advance, .advance,
      .advance, .look, .check, .begin true, .advance, .advance, .advance]
    let loaded := (start source).run es
    let looked := (start source).run (es ++ [.look])
    ((shownMarkers source es).Nodup ∧ loaded.store.marker = some loaded.source.revision ∧
      loaded.source.Yields loaded.store.current.ruleset) ∧
    (shownMarkers source (es ++ [.look])).Nodup ∧ looked.seen = some looked.source.revision ∧
      looked.failed ≠ some looked.source.revision ∧ looked.check.wanted = none ∧
      looked.source.Yields looked.store.current.ruleset := by
  intro source es loaded looked
  have hf : (shownMarkers source es).Nodup := by decide
  have hm : loaded.store.marker = some loaded.source.revision := by decide
  have hf' : (shownMarkers source (es ++ [.look])).Nodup := by decide
  have hseen : looked.seen = some looked.source.revision := by decide
  have hfailed : looked.failed ≠ some looked.source.revision := by decide
  have hskip : looked.check.wanted = none := by decide
  exact ⟨⟨hf, hm, (published_of_marker_eq source hf).1 hm⟩,
    hf', hseen, hfailed, hskip, (published_of_marker_eq source hf').2 hseen hfailed hskip⟩

end Loading

end FraudScreen.Rules
