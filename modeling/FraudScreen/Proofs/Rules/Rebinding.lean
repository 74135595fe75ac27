import FraudScreen.Proofs.Payment.Acceptance
import FraudScreen.Proofs.Rules.Binding

/-!
# Binding over any table

A table may hold any names at any types when a context is bound to it. What the older values decide is
only whether the binding goes through: it stops at the first variable whose name holds a value of
another type (`bindAll_of_clash`), and without such a variable it replaces all of them
(`bindAll_of_agrees`). Once a context was bound, every later one is, and nothing but the last one and
the names that no context binds can be found in the table (`bindEach_of_agrees`).
-/
namespace FraudScreen

namespace Expr.Bindings

theorem lookup_put (b : Bindings) (name : String) (v : Value) (x : String) :
    (b.put name v).lookup x = if x = name then some v else b.lookup x := by
  induction b with
  | nil => rw [put, lookup_cons_eq_ite]
  | cons p rest ih =>
    obtain ⟨n, w⟩ := p
    by_cases hn : n = name
    · subst hn
      by_cases hx : x = n <;> simp [put, lookup_cons_eq_ite, hx]
    · rw [put, if_neg hn, lookup_cons_eq_ite, lookup_cons_eq_ite, ih]
      by_cases hx : x = n
      · simp [hx, hn]
      · simp [hx]

/-- Where every name stands once, each one is found with the value that it stands with. -/
theorem lookup_of_mem {vs : Bindings} (hnd : (vs.map (·.1)).Nodup) {p : String × Value} (hp : p ∈ vs) :
    vs.lookup p.1 = some p.2 := by
  obtain ⟨front, rest, rfl⟩ := List.append_of_mem hp
  rw [List.map_append, List.map_cons] at hnd
  exact lookup_append_cons p.2 fun hm =>
    (List.nodup_append.1 hnd).2.2 p.1 hm p.1 (List.mem_cons_self ..) rfl

/-- No variable of a list is held by a table at another type. -/
def Agrees (b : Bindings) (vs : List (String × Value)) : Prop :=
  ∀ p ∈ vs, ∀ old, b.lookup p.1 = some old → old.type = p.2.type

theorem bind_of_agrees {b : Bindings} {name : String} {v : Value}
    (h : ∀ old, b.lookup name = some old → old.type = v.type) : b.bind name v = .ok (b.put name v) := by
  cases hold : b.lookup name with
  | none => simp [bind, hold]
  | some old => simp [bind, hold, h old hold]

theorem bind_of_clash {b : Bindings} {name : String} {old v : Value} (hold : b.lookup name = some old)
    (ht : old.type ≠ v.type) : b.bind name v = .error (.unexpected (.oneType old.type) v) := by
  simp [bind, hold, ht]

/-- Where a list and a table do not agree there is a first variable that clashes. -/
theorem exists_first_clash {b : Bindings} {vs : List (String × Value)} (h : ¬ b.Agrees vs) :
    ∃ front name v rest old, vs = front ++ (name, v) :: rest ∧ b.Agrees front ∧
      b.lookup name = some old ∧ old.type ≠ v.type := by
  induction vs with
  | nil => exact absurd (fun p hp => by simp at hp) h
  | cons p vs ih =>
    obtain ⟨name, v⟩ := p
    by_cases hp : ∀ old, b.lookup name = some old → old.type = v.type
    · have hvs : ¬ b.Agrees vs := fun hvs => h fun q hq => by
        rcases List.mem_cons.1 hq with rfl | hq
        · exact hp
        · exact hvs q hq
      obtain ⟨front, name', v', rest, old, rfl, hfront, hold, ht⟩ := ih hvs
      refine ⟨(name, v) :: front, name', v', rest, old, rfl, ?_, hold, ht⟩
      intro q hq
      rcases List.mem_cons.1 hq with rfl | hq
      · exact hp
      · exact hfront q hq
    · obtain ⟨old, hold, ht⟩ : ∃ old, b.lookup name = some old ∧ old.type ≠ v.type := by simpa using hp
      exact ⟨[], name, v, vs, old, rfl, fun q hq => by simp at hq, hold, ht⟩

end Expr.Bindings

namespace Rules

open FraudScreen.Expr (Bindings EvalError Value)

/-- **What goes through.** Variables with names of their own that agree with the table are all bound,
and no other name is touched. -/
theorem bindAll_of_agrees {vs : List (String × Value)} : ∀ {b : Bindings}, (vs.map (·.1)).Nodup →
    b.Agrees vs → ∃ t, bindAll b vs = (t, none) ∧ ∀ x, t.lookup x = (vs.lookup x).or (b.lookup x) := by
  induction vs with
  | nil => exact fun {b} _ _ => ⟨b, rfl, fun x => rfl⟩
  | cons p vs ih =>
    obtain ⟨name, v⟩ := p
    intro b hnd h
    obtain ⟨hname, hnd⟩ := List.nodup_cons.1 hnd
    change name ∉ vs.map (·.1) at hname
    -- The names are distinct, so the variables that are left still meet the older values.
    have hrest : Bindings.Agrees (b.put name v) vs := by
      intro q hq old hold
      have hne : q.1 ≠ name := fun e => hname (e ▸ List.mem_map.2 ⟨q, hq, rfl⟩)
      rw [Bindings.lookup_put, if_neg hne] at hold
      exact h q (List.mem_cons_of_mem _ hq) old hold
    obtain ⟨t, hbind, ht⟩ := ih hnd hrest
    refine ⟨t, ?_, fun x => ?_⟩
    · simp only [bindAll, Bindings.bind_of_agrees (h _ (List.mem_cons_self ..)), hbind]
    · rw [ht, Bindings.lookup_put]
      by_cases hx : x = name
      · subst hx
        simp [Bindings.lookup_of_not_mem hname]
      · simp [lookup_cons_eq_ite, hx]

theorem bindAll_append (b : Bindings) (vs ws : List (String × Value)) :
    bindAll b (vs ++ ws) =
      match bindAll b vs with
      | (t, none) => bindAll t ws
      | (t, some e) => (t, some e) := by
  induction vs generalizing b with
  | nil => simp [bindAll]
  | cons p vs ih =>
    obtain ⟨name, v⟩ := p
    cases h : b.bind name v with
    | ok t => simp only [List.cons_append, bindAll, h, ih]
    | error e => simp only [List.cons_append, bindAll, h]

/-- **What does not.** The first variable that clashes ends the binding: the variables before it are
bound, it and those after it are not. -/
theorem bindAll_of_clash {b : Bindings} {front rest : List (String × Value)} {name : String}
    {old v : Value} (hnd : ((front ++ (name, v) :: rest).map (·.1)).Nodup) (h : b.Agrees front)
    (hold : b.lookup name = some old) (ht : old.type ≠ v.type) :
    ∃ t, bindAll b (front ++ (name, v) :: rest) = (t, some (.unexpected (.oneType old.type) v)) ∧
      ∀ x, t.lookup x = (front.lookup x).or (b.lookup x) := by
  rw [List.map_append, List.map_cons] at hnd
  obtain ⟨hfront, -, hdisj⟩ := List.nodup_append.1 hnd
  obtain ⟨t, hbind, hlook⟩ := bindAll_of_agrees hfront h
  have hname : name ∉ front.map (·.1) := fun hm => hdisj name hm name (List.mem_cons_self ..) rfl
  have hstill : t.lookup name = some old := by
    rw [hlook, Bindings.lookup_of_not_mem hname, Option.none_or, hold]
  refine ⟨t, ?_, hlook⟩
  rw [bindAll_append, hbind]
  simp only [bindAll, Bindings.bind_of_clash hstill ht]

/-- Binds contexts one after another up to the first that fails. -/
def bindEach (b : Bindings) : List Context → Bindings × Option EvalError
  | [] => (b, none)
  | c :: cs =>
    match c.bind b with
    | (t, none) => bindEach t cs
    | (t, some e) => (t, some e)

namespace Context

/-- A table agrees with a context or not whatever the context's values are: only their types count. -/
theorem agrees_values_iff (c : Context) (b : Bindings) :
    b.Agrees c.values ↔ ∀ p ∈ signature, ∀ old, b.lookup p.1 = some old → old.type = p.2 := by
  rw [← signature_values c]
  simp only [Bindings.Agrees, Bindings.signature, List.forall_mem_map]

theorem mem_names_iff (c : Context) (name : String) :
    name ∈ c.values.map (·.1) ↔ name ∈ signature.map (·.1) := by
  rw [← signature_values c, Bindings.map_fst_signature]

/-- A name is bound by every context or by none. -/
theorem lookup_values_or (c c' : Context) (b : Bindings) (x : String) :
    (c.values.lookup x).or ((c'.values.lookup x).or (b.lookup x)) =
      (c.values.lookup x).or (b.lookup x) := by
  by_cases hx : x ∈ signature.map (·.1)
  · obtain ⟨p, hp, rfl⟩ := List.mem_map.1 ((c.mem_names_iff x).2 hx)
    simp [Bindings.lookup_of_mem c.names_nodup hp]
  · rw [Bindings.lookup_of_not_mem fun h => hx ((c'.mem_names_iff x).1 h), Option.none_or]

/-- A table that a context was bound to agrees with every context. -/
theorem agrees_of_lookup {c : Context} {b t : Bindings}
    (ht : ∀ x, t.lookup x = (c.values.lookup x).or (b.lookup x)) (c' : Context) :
    t.Agrees c'.values := by
  rw [agrees_values_iff, ← c.agrees_values_iff]
  intro p hp old hold
  rw [ht, Bindings.lookup_of_mem c.names_nodup hp, Option.some_or, Option.some.injEq] at hold
  rw [hold]

end Context

/-- **Only the last context is left.** Once a table agrees with a context it goes through any number of
them, and holds the values of the last one and the names that no context binds. -/
theorem bindEach_of_agrees {b : Bindings} {c : Context} (h : b.Agrees c.values) (cs : List Context) :
    ∃ t, bindEach b (c :: cs) = (t, none) ∧
      ∀ x, t.lookup x = ((cs.getLastD c).values.lookup x).or (b.lookup x) := by
  induction cs generalizing b c with
  | nil =>
    obtain ⟨t, hbind, ht⟩ := bindAll_of_agrees c.names_nodup h
    exact ⟨t, by simp only [bindEach, Context.bind, hbind], ht⟩
  | cons c' cs ih =>
    obtain ⟨t, hbind, ht⟩ := bindAll_of_agrees c.names_nodup h
    obtain ⟨t', hbind', ht'⟩ := ih (Context.agrees_of_lookup ht c')
    refine ⟨t', ?_, fun x => ?_⟩
    · rw [← hbind', bindEach]
      simp only [Context.bind, hbind]
    · rw [ht', ht, Context.lookup_values_or, List.getLastD_cons]

/-- **Binding replaces everything and fails cleanly.** Over any table, a context is bound exactly if none
of its names holds a value of another type. Then they all hold its values, every other name is as it
was, and later contexts leave no value of an earlier one. Otherwise the error is that of the first name
that clashes, the names before it hold the new values, and every other name is as it was. -/
theorem Context.bind_replaces_or_fails (c : Context) (b : Bindings) :
    ((c.bind b).2 = none ↔
      ∀ p ∈ Context.signature, ∀ old, b.lookup p.1 = some old → old.type = p.2) ∧
    ((c.bind b).2 = none →
      (∀ p ∈ c.values, (c.bind b).1.lookup p.1 = some p.2) ∧
      (∀ x ∉ Context.signature.map (·.1), (c.bind b).1.lookup x = b.lookup x) ∧
      ∀ cs, ∃ t, bindEach (c.bind b).1 cs = (t, none) ∧
        (∀ p ∈ (cs.getLastD c).values, t.lookup p.1 = some p.2) ∧
        ∀ x ∉ Context.signature.map (·.1), t.lookup x = b.lookup x) ∧
    ∀ e, (c.bind b).2 = some e →
      ∃ front name v rest old, c.values = front ++ (name, v) :: rest ∧
        (∀ p ∈ front, ∀ older, b.lookup p.1 = some older → older.type = p.2.type) ∧
        b.lookup name = some old ∧ old.type ≠ v.type ∧ e = .unexpected (.oneType old.type) v ∧
        (∀ p ∈ front, (c.bind b).1.lookup p.1 = some p.2) ∧
        ∀ x ∉ front.map (·.1), (c.bind b).1.lookup x = b.lookup x := by
  rw [← c.agrees_values_iff]
  by_cases h : b.Agrees c.values
  · -- Everything is bound.
    obtain ⟨t, hbind, ht⟩ := bindAll_of_agrees c.names_nodup h
    have hc : c.bind b = (t, none) := hbind
    have holds {t : Bindings} {c' : Context} (ht : ∀ x, t.lookup x = (c'.values.lookup x).or (b.lookup x)) :
        (∀ p ∈ c'.values, t.lookup p.1 = some p.2) ∧
          ∀ x ∉ Context.signature.map (·.1), t.lookup x = b.lookup x := by
      refine ⟨fun p hp => ?_, fun x hx => ?_⟩
      · rw [ht, Bindings.lookup_of_mem c'.names_nodup hp, Option.some_or]
      · rw [ht, Bindings.lookup_of_not_mem fun hm => hx ((c'.mem_names_iff x).1 hm), Option.none_or]
    refine ⟨by simp [hc, h], fun _ => ?_, fun e he => by simp [hc] at he⟩
    rw [hc]
    refine ⟨(holds ht).1, (holds ht).2, fun cs => ?_⟩
    obtain ⟨t', heach, ht'⟩ := bindEach_of_agrees h cs
    rw [bindEach, hc] at heach
    exact ⟨t', heach, holds ht'⟩
  · -- A first name clashes.
    obtain ⟨front, name, v, rest, old, hvs, hfront, hold, htype⟩ := Bindings.exists_first_clash h
    have hnd := c.names_nodup
    rw [hvs] at hnd
    obtain ⟨t, hbind, ht⟩ := bindAll_of_clash hnd hfront hold htype
    have hc : c.bind b = (t, some (.unexpected (.oneType old.type) v)) := by
      rw [Context.bind, hvs, hbind]
    refine ⟨by simp [hc, h], fun hn => by simp [hc] at hn, fun e he => ?_⟩
    rw [hc] at he ⊢
    obtain rfl : EvalError.unexpected (.oneType old.type) v = e := Option.some.inj he
    refine ⟨front, name, v, rest, old, hvs, hfront, hold, htype, rfl, fun p hp => ?_, fun x hx => ?_⟩
    · have hfnd : (front.map (·.1)).Nodup := by
        rw [List.map_append] at hnd
        exact (List.nodup_append.1 hnd).1
      rw [ht, Bindings.lookup_of_mem hfnd hp, Option.some_or]
    · rw [ht, Bindings.lookup_of_not_mem hx, Option.none_or]

/-- A table that a rule left `x` in takes the ordinary transaction and keeps `x`. One with a whole number
for the hourly count does not, and has a first name that clashes. -/
theorem Context.bind_replaces_or_fails_ordinary :
    let c : Context := .ofTransaction .ordinary
    let kept : Bindings := [("amount", .float 9), ("x", .bool true)]
    let clashing : Bindings := [("hourly_count", .int 3)]
    (c.bind kept).2 = none ∧ (c.bind kept).1.lookup "x" = some (.bool true) ∧
      ∃ e, (c.bind clashing).2 = some e ∧
        ∃ name v old, (name, v) ∈ c.values ∧ clashing.lookup name = some old ∧
          e = .unexpected (.oneType old.type) v := by
  intro c kept clashing
  obtain ⟨hkept, hgood, -⟩ := Context.bind_replaces_or_fails c kept
  obtain ⟨hclash, -, hbad⟩ := Context.bind_replaces_or_fails c clashing
  have hnone : (c.bind kept).2 = none := hkept.2 (by decide)
  refine ⟨hnone, ?_, ?_⟩
  · rw [(hgood hnone).2.1 "x" (by decide)]
    rfl
  · obtain ⟨e, he⟩ : ∃ e, (c.bind clashing).2 = some e := by
      refine Option.ne_none_iff_exists'.1 fun hn => ?_
      exact absurd (hclash.1 hn ("hourly_count", .float) (by decide) (.int 3) rfl) (by decide)
    obtain ⟨front, name, v, rest, old, hvs, -, hold, -, rfl, -⟩ := hbad e he
    exact ⟨_, he, name, v, old, by simp [hvs], hold, rfl⟩

end Rules

end FraudScreen
