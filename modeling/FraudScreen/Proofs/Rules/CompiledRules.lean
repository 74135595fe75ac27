import FraudScreen.Proofs.Rules.CacheTransparency

/-!
# What a cache holds after a pass

A cache keeps a rule when it compiles, and forgets it before it is compiled again. `Cache.Trim` is the invariant: no
rule is kept twice, and a cache that belongs to a publication keeps no rules but those that are enabled in it and
compile. A pass that does not crash comes past all of these, so afterwards the cache holds exactly them, whatever it
held before: `Cache.Trim.size_run`.
-/
namespace FraudScreen.Rules

/-- The expression of the rule compiles. -/
def Rule.compiles (r : Rule) : Bool := (Expr.compile r.expression).toBool

/-- The enabled rules that compile. -/
def Ruleset.compilable (r : Ruleset) : List Rule := r.enabledRules.filter (·.compiles)

theorem Ruleset.mem_ids_compilable {rs : Ruleset} {id : String} :
    id ∈ rs.compilable.map (·.id) ↔ ∃ r ∈ rs.enabledRules, r.id = id ∧ r.compiles = true := by
  simp only [compilable, List.mem_map, List.mem_filter]
  exact ⟨fun ⟨r, ⟨hr, hc⟩, hid⟩ => ⟨r, hr, hid, hc⟩, fun ⟨r, hr, hid, hc⟩ => ⟨r, ⟨hr, hc⟩, hid⟩⟩

theorem Ruleset.IdsUnique.compilable {rs : Ruleset} (h : rs.IdsUnique) : (rs.compilable.map (·.id)).Nodup :=
  h.enabledRules.sublist (List.filter_sublist.map _)

/-- By its identifier, an enabled rule is known to compile. -/
theorem Ruleset.IdsUnique.compiles_of_mem {rs : Ruleset} (h : rs.IdsUnique) {r : Rule} (hr : r ∈ rs.enabledRules)
    (hid : r.id ∈ rs.compilable.map (·.id)) : r.compiles = true := by
  obtain ⟨r', hr', he, hc⟩ := Ruleset.mem_ids_compilable.1 hid
  rwa [h.eq_of_id_eq (List.mem_of_mem_filter hr') (List.mem_of_mem_filter hr) he] at hc

namespace Cache

/-- The identifiers of the compiled rules. -/
def ids (c : Cache) : List String := c.compiled.map (·.1)

theorem length_ids (c : Cache) : c.ids.length = c.size := List.length_map ..

theorem ids_filter (l : List (String × Compiled)) (id : String) :
    (l.filter (·.1 ≠ id)).map (·.1) = (l.map (·.1)).filter (· ≠ id) := by
  rw [List.filter_map]
  rfl

/-- Everything that evaluating a rule can do to the identifiers: the rule was there already, it is there from now on, or
it is not there because it does not compile or crashes. -/
theorem ids_evaluate (c : Cache) (generation : Nat) (r : Rule) :
    let after := c.evaluate generation r
    (r.id ∈ c.ids ∧ after.1.ids = c.ids) ∨
      (r.compiles = true ∧ after.1.ids = r.id :: c.ids.filter (· ≠ r.id)) ∨
      ((r.compiles = false ∨ after.2.isCrash = true) ∧ after.1.ids = c.ids.filter (· ≠ r.id)) := by
  unfold evaluate
  split
  · rename_i entry hf
    obtain ⟨hl, -⟩ := Option.filter_eq_some_iff.1 hf
    obtain ⟨front, back, hc, -⟩ := List.lookup_eq_some_iff.1 hl
    exact .inl ⟨by simp [ids, hc], rfl⟩
  · split
    · rename_i e hn
      exact .inr (.inr ⟨.inl (by rw [Rule.compiles, hn]; rfl), ids_filter ..⟩)
    · rename_i n hn
      dsimp only
      split
      · rename_i hcrash
        exact .inr (.inr ⟨.inr hcrash, ids_filter ..⟩)
      · exact .inr (.inl ⟨by rw [Rule.compiles, hn]; rfl, congrArg (r.id :: ·) (ids_filter ..)⟩)

@[simp] theorem generation_evaluate (c : Cache) (generation : Nat) (r : Rule) :
    (c.evaluate generation r).1.generation = c.generation := by
  unfold evaluate
  split
  · rfl
  · split
    · rfl
    · dsimp only
      split <;> rfl

/-- What a cache may hold of compiled rules while `p` is in force. -/
structure Trim (p : Published) (c : Cache) : Prop where
  generation_le : c.generation ≤ p.generation
  once : c.ids.Nodup
  ids_mem : c.generation = p.generation → ∀ id ∈ c.ids, id ∈ p.ruleset.compilable.map (·.id)

variable {p : Published} {c : Cache}

theorem Trim.ofNoEntries {b : Expr.Bindings} {g : Nat} (h : g ≤ p.generation) : Trim p ⟨g, b, []⟩ :=
  ⟨h, List.nodup_nil, fun _ _ hm => absurd hm List.not_mem_nil⟩

theorem trim_empty : empty.Trim p := .ofNoEntries (Nat.zero_le _)

/-- A later publication finds a cache that belongs to another one. -/
theorem Trim.publish {q : Published} (h : c.Trim p) (hpq : p.generation < q.generation) : c.Trim q :=
  ⟨Nat.le_of_lt (Nat.lt_of_le_of_lt h.generation_le hpq), h.once,
    fun e => absurd (e ▸ h.generation_le) (Nat.not_le_of_lt hpq)⟩

theorem Trim.forGeneration (h : c.Trim p) : (c.forGeneration p.generation).Trim p := by
  unfold Cache.forGeneration
  split
  · exact h
  · exact .ofNoEntries (Nat.le_refl _)

@[simp] theorem generation_forGeneration (c : Cache) (g : Nat) : (c.forGeneration g).generation = g := by
  unfold Cache.forGeneration
  split
  · assumption
  · rfl

/-- Binding leaves the compiled rules as they are. -/
theorem rebind_eq (c : Cache) (ctx : Context) : ∃ b, c.rebind ctx = { c with bindings := b } := by
  unfold rebind
  split
  · exact ⟨_, rfl⟩
  · exact ⟨_, rfl⟩

theorem Trim.rebind (h : c.Trim p) (ctx : Context) : (c.rebind ctx).Trim p := by
  obtain ⟨b, e⟩ := c.rebind_eq ctx
  rw [e]
  exact ⟨h.generation_le, h.once, h.ids_mem⟩

@[simp] theorem generation_rebind (c : Cache) (ctx : Context) : (c.rebind ctx).generation = c.generation := by
  obtain ⟨b, e⟩ := c.rebind_eq ctx
  rw [e]

/-- **One rule.** A rule that compiles is in the cache after it was evaluated, and nothing else changes. -/
theorem Trim.evaluate (h : c.Trim p) (hp : p.ruleset.IdsUnique) (hg : c.generation = p.generation) {r : Rule}
    (hr : r ∈ p.ruleset.enabledRules) :
    let after := c.evaluate p.generation r
    after.1.Trim p ∧ (after.2.isCrash = false →
      ∀ id, id ∈ after.1.ids ↔ id ∈ c.ids ∨ r.id = id ∧ r.compiles = true) := by
  intro after
  have hle : after.1.generation ≤ p.generation := Nat.le_of_eq (by simp [after, hg])
  obtain ⟨hin, e⟩ | ⟨hc, e⟩ | ⟨hc, e⟩ := c.ids_evaluate p.generation r
  · refine ⟨⟨hle, e ▸ h.once, fun _ => e ▸ h.ids_mem hg⟩, fun _ id => ?_⟩
    rw [e]
    exact ⟨.inl, fun hid => hid.elim (fun hm => hm) fun hm => hm.1 ▸ hin⟩
  · have hids : ∀ id, id ∈ after.1.ids ↔ id ∈ c.ids ∨ r.id = id ∧ r.compiles = true := by
      intro id
      rw [e, List.mem_cons, List.mem_filter, decide_eq_true_eq]
      by_cases hid : id = r.id
      · simp [hid, hc]
      · simp [hid, Ne.symm hid]
    refine ⟨⟨hle, ?_, fun _ id hm => ?_⟩, fun _ => hids⟩
    · rw [e, List.nodup_cons]
      exact ⟨fun hm => absurd rfl (of_decide_eq_true (List.mem_filter.1 hm).2), h.once.filter _⟩
    · rcases (hids id).1 hm with hm | ⟨rfl, -⟩
      · exact h.ids_mem hg id hm
      · exact Ruleset.mem_ids_compilable.2 ⟨r, hr, rfl, hc⟩
  · refine ⟨⟨hle, e ▸ h.once.filter _, fun _ id hm => ?_⟩, fun hcrash id => ?_⟩
    · rw [e] at hm
      exact h.ids_mem hg id (List.mem_of_mem_filter hm)
    · -- the rule does not compile, so the cache did not have it before either
      have hno : r.compiles = false := hc.resolve_right (ne_true_of_eq_false hcrash)
      have hout : r.id ∉ c.ids := by
        intro hm
        have := hp.compiles_of_mem hr (h.ids_mem hg _ hm)
        simp [hno] at this
      rw [e, List.mem_filter, decide_eq_true_eq, hno]
      refine ⟨fun hm => .inl hm.1, fun hm => ?_⟩
      have hm : id ∈ c.ids := hm.resolve_right nofun
      exact ⟨hm, fun hid => hout (hid ▸ hm)⟩

/-- Rules that are evaluated one after another are in the cache if they compile. -/
theorem Trim.evaluateAll (hp : p.ruleset.IdsUnique) : ∀ {c : Cache} (rules : List Rule), c.Trim p →
    c.generation = p.generation → (∀ r ∈ rules, r ∈ p.ruleset.enabledRules) →
      let after := c.evaluateAll p.generation rules
      after.1.Trim p ∧ after.1.generation = p.generation ∧ (after.2.any (·.2.isCrash) = false →
        ∀ id, id ∈ after.1.ids ↔ id ∈ c.ids ∨ ∃ r ∈ rules, r.id = id ∧ r.compiles = true)
  | c, [], h, hg, _ => by simp [Cache.evaluateAll, h, hg]
  | c, r :: rest, h, hg, hr => by
    obtain ⟨ht, hids⟩ := h.evaluate hp hg (hr r (List.mem_cons_self ..))
    have hg' : (c.evaluate p.generation r).1.generation = p.generation := by simp [hg]
    simp only [Cache.evaluateAll]
    split
    · rename_i hcrash
      exact ⟨ht, hg', fun hno => by simp [hcrash] at hno⟩
    · rename_i hcrash
      obtain ⟨ht', hg'', hids'⟩ :=
        Trim.evaluateAll hp rest ht hg' fun r' hr' => hr r' (List.mem_cons_of_mem _ hr')
      refine ⟨ht', hg'', fun hno id => ?_⟩
      simp only [List.any_cons, Bool.or_eq_false_iff] at hno
      rw [hids' hno.2, hids hno.1, List.exists_mem_cons_iff, or_assoc]

/-- **A pass.** It leaves a cache for its publication, and one that does not crash leaves exactly the enabled rules that
compile in it, each once, whatever the cache held before. -/
theorem Trim.run (h : c.Trim p) (hp : p.ruleset.IdsUnique) (ctx : Context) :
    (c.run p ctx).1.Trim p ∧ ((c.run p ctx).2.any (·.2.isCrash) = false →
      (c.run p ctx).1.ids.Perm (p.ruleset.compilable.map (·.id))) := by
  have hg : ((c.forGeneration p.generation).rebind ctx).generation = p.generation := by simp
  obtain ⟨ht, hg', hids⟩ := Trim.evaluateAll hp p.ruleset.enabledRules (h.forGeneration.rebind ctx) hg fun _ hr => hr
  refine ⟨ht, fun hno => ?_⟩
  refine (List.perm_ext_iff_of_nodup ht.once hp.compilable).2 fun id => ⟨ht.ids_mem hg' id, fun hm => ?_⟩
  exact (hids hno id).2 (.inr (Ruleset.mem_ids_compilable.1 hm))

theorem Trim.size_run (h : c.Trim p) (hp : p.ruleset.IdsUnique) (ctx : Context)
    (hno : (c.run p ctx).2.any (·.2.isCrash) = false) :
    (c.run p ctx).1.size = p.ruleset.enabledRules.countP (·.compiles) := by
  rw [← length_ids, ((h.run hp ctx).2 hno).length_eq, List.length_map, Ruleset.compilable, List.countP_eq_length_filter]

end Cache

end FraudScreen.Rules
