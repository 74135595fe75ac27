import Mathlib.Data.List.Nodup
import FraudScreen.Rules.Session

/-!
# Publications

What a load can do to a store, said once: it publishes the rule set of the document it read, or it leaves
everything but the last error alone. A pass changes nothing of a store but its statistics. Published rule sets
have each identifier once (`idsUnique_of_load`), and a publication has a number that none before it had
(`Store.Numbered`).
-/
namespace FraudScreen.Rules

/-! ## Identifiers -/

theorem not_mem_selectRules {taken : List String} {id : String} (h : id ∈ taken) :
    ∀ entries : List Entry, id ∉ (selectRules taken entries).map (·.id)
  | [] => by simp [selectRules]
  | e :: rest => by
    simp only [selectRules]
    split
    · exact not_mem_selectRules h rest
    · rename_i r _
      split
      · exact not_mem_selectRules h rest
      · rename_i hr
        have hne : id ≠ r.id := fun e => hr (e ▸ h)
        simp only [List.map_cons, List.mem_cons, not_or]
        exact ⟨hne, not_mem_selectRules (List.mem_cons_of_mem _ h) rest⟩

theorem selectRules_nodup (taken : List String) :
    ∀ entries : List Entry, ((selectRules taken entries).map (·.id)).Nodup
  | [] => by simp [selectRules]
  | e :: rest => by
    simp only [selectRules]
    split
    · exact selectRules_nodup taken rest
    split
    · exact selectRules_nodup taken rest
    · rw [List.map_cons, List.nodup_cons]
      exact ⟨not_mem_selectRules (List.mem_cons_self ..) rest, selectRules_nodup _ rest⟩

theorem selectRules_sublist : ∀ (taken : List String) (entries : List Entry),
    (selectRules taken entries).Sublist (entries.filterMap Entry.rule?)
  | _, [] => .slnil
  | taken, e :: rest => by
    cases he : e.rule? with
    | none =>
      simp only [selectRules, he, List.filterMap_cons]
      exact selectRules_sublist taken rest
    | some r =>
      simp only [selectRules, he, List.filterMap_cons]
      split
      · exact (selectRules_sublist taken rest).cons r
      · exact (selectRules_sublist _ rest).cons_cons r

/-- A rule set has each identifier once. -/
def Ruleset.IdsUnique (r : Ruleset) : Prop := (r.rules.map (·.id)).Nodup

theorem Ruleset.idsUnique_ofDocument {d : Document} {r : Ruleset} (h : ofDocument d = .ok r) :
    r.IdsUnique := by
  simp only [ofDocument] at h
  split at h
  · cases h
  · cases h
    have hp := List.mergeSort_perm (selectRules [] d.rules) fun a b => orderKey b.weight ≤ orderKey a.weight
    exact (hp.map _).nodup_iff.2 (selectRules_nodup [] _)

theorem Ruleset.IdsUnique.eq_of_id_eq {r : Ruleset} (h : r.IdsUnique) {a b : Rule}
    (ha : a ∈ r.rules) (hb : b ∈ r.rules) (e : a.id = b.id) : a = b :=
  List.inj_on_of_nodup_map h ha hb e

theorem Ruleset.IdsUnique.filter_id {rs : Ruleset} (h : rs.IdsUnique) {r : Rule} (hr : r ∈ rs.rules) :
    rs.rules.filter (·.id = r.id) = [r] := by
  obtain ⟨front, back, e⟩ := List.append_of_mem hr
  simp only [IdsUnique, e, List.map_append, List.map_cons, List.nodup_append, List.nodup_cons] at h
  obtain ⟨-, ⟨hback, -⟩, hfront⟩ := h
  have hb : back.filter (·.id = r.id) = [] := by
    refine List.filter_eq_nil_iff.2 fun x hx hid => hback ?_
    exact List.mem_map.2 ⟨x, hx, of_decide_eq_true hid⟩
  have hf : front.filter (·.id = r.id) = [] := by
    refine List.filter_eq_nil_iff.2 fun x hx hid => ?_
    exact hfront x.id (List.mem_map_of_mem hx) r.id (List.mem_cons_self ..) (of_decide_eq_true hid)
  simp [e, hb, hf]

theorem Ruleset.IdsUnique.enabledRules {r : Ruleset} (h : r.IdsUnique) : (r.enabledRules.map (·.id)).Nodup :=
  h.sublist (List.filter_sublist.map _)

theorem idsUnique_of_load {source : Source} {r : Ruleset} (h : source.load = .ok r) : r.IdsUnique := by
  unfold Source.load at h
  split at h
  · cases h
  · split at h
    · rename_i hd
      cases h
      exact Ruleset.idsUnique_ofDocument hd
    · cases h

/-! ## Loads -/

namespace Store

/-- Everything a load can do. -/
theorem reload_cases (s : Store) (source : Source) :
    (∃ r, source.load = .ok r ∧
      s.reload source = ((s.publish r).remember source.marker?, .ok ⟨r, s.publications + 1⟩)) ∨
    (∃ e, source.load = .error e ∧ s.reload source = (s.blame e, .error e)) := by
  cases h : source.load with
  | ok r => exact .inl ⟨r, rfl, by simp [reload, h, publish, remember]⟩
  | error e => exact .inr ⟨e, rfl, by simp [reload, h]⟩

/-- The end of a pass changes statistics only. -/
theorem exists_finishPass (s : Store) (version : String) (times : Times) (os : List (Rule × Outcome)) :
    ∃ t, (s.finishPass version times os).1 = { s with telemetry := t } := by
  unfold finishPass
  split
  · exact ⟨s.telemetry, rfl⟩
  · exact ⟨_, rfl⟩

/-- A pass that has a result has that of its outcomes. -/
theorem eq_ofOutcomes_of_finishPass {s : Store} {version : String} {times : Times} {os : List (Rule × Outcome)}
    {m : PassResult} (h : (s.finishPass version times os).2 = some m) : m = .ofOutcomes version os := by
  unfold finishPass at h
  split at h
  · cases h
  · dsimp only at h
    split at h
    · exact (Option.some.inj h).symm
    · cases h

/-- The rule set in force bears the number of publications so far, and has each identifier once. -/
structure Numbered (s : Store) : Prop where
  generation : s.current.generation = s.publications
  ids : s.current.ruleset.IdsUnique

theorem numbered_empty : empty.Numbered := ⟨rfl, List.nodup_nil⟩

theorem Numbered.reload {s : Store} (h : s.Numbered) (source : Source) : (s.reload source).1.Numbered := by
  obtain ⟨r, hr, e⟩ | ⟨_, _, e⟩ := s.reload_cases source
  · rw [e]
    exact ⟨rfl, idsUnique_of_load hr⟩
  · rw [e]
    exact ⟨h.generation, h.ids⟩

end Store

namespace Rulebook

@[simp] theorem notify_store (b : Rulebook) (p : Poller) (published : Published) :
    (b.notify p published).store = b.store := by
  unfold notify
  split <;> rfl

/-- A check of the poller leaves the store alone, or loads. -/
theorem poll_store (b : Rulebook) : b.poll.store = b.store ∨ b.poll.store = (b.store.reload b.source).1 := by
  unfold poll
  split
  · split
    · exact .inl rfl
    · obtain ⟨r, _, e⟩ | ⟨_, _, e⟩ := b.store.reload_cases b.source
      · right
        simp [reload, e]
      · right
        simp [reload, e]
  · exact .inl rfl

end Rulebook

end FraudScreen.Rules
