import FraudScreen.Rules.Context

/-!
# Binding a context

A context binds the same eighteen names at the same types every time. So a table that is empty, or that
holds nothing but the variables of some context, becomes exactly the table of the new context:
`Context.bind_eq_values`. No value of the older context is left.
-/
namespace FraudScreen

/-- The first entry of a table answers for its own name only. -/
theorem lookup_cons_eq_ite {α : Type} (name : String) (v : α) (rest : List (String × α)) (x : String) :
    List.lookup x ((name, v) :: rest) = if x = name then some v else rest.lookup x := by
  rw [List.lookup_cons]
  by_cases hx : x = name
  · simp [hx]
  · rw [beq_false_of_ne hx, if_neg hx]

namespace Expr.Bindings

/-- The names of a table with the types of their values. -/
def signature (b : Bindings) : List (String × ValueType) := b.map fun (name, v) => (name, v.type)

theorem map_fst_signature (b : Bindings) : b.signature.map (·.1) = b.map (·.1) := by
  simp [signature]

theorem put_of_not_mem {b : Bindings} {name : String} (v : Value) (h : name ∉ b.map (·.1)) :
    b.put name v = b ++ [(name, v)] := by
  induction b with
  | nil => rfl
  | cons p rest ih =>
    obtain ⟨n, w⟩ := p
    simp only [List.map_cons, List.mem_cons, not_or] at h
    simp [put, Ne.symm h.1, ih h.2]

theorem put_append_cons {b rest : Bindings} {name : String} (v w : Value) (h : name ∉ b.map (·.1)) :
    Bindings.put (b ++ (name, w) :: rest) name v = b ++ (name, v) :: rest := by
  induction b with
  | nil => simp [put]
  | cons p b ih =>
    obtain ⟨n, u⟩ := p
    simp only [List.map_cons, List.mem_cons, not_or] at h
    simp [put, Ne.symm h.1, ih h.2]

theorem lookup_of_not_mem {b : Bindings} {name : String} (h : name ∉ b.map (·.1)) :
    b.lookup name = none := by
  rw [List.lookup_eq_none_iff]
  intro p hp
  have hne : name ≠ p.1 := fun e => h (List.mem_map.2 ⟨p, hp, e.symm⟩)
  simpa using hne

theorem lookup_append_cons {b rest : Bindings} {name : String} (w : Value) (h : name ∉ b.map (·.1)) :
    List.lookup name (b ++ (name, w) :: rest) = some w := by
  simp [List.lookup_append, lookup_of_not_mem h]

/-- A name that is not bound yet goes to the end. -/
theorem bind_of_not_mem {b : Bindings} {name : String} (v : Value) (h : name ∉ b.map (·.1)) :
    b.bind name v = .ok (b ++ [(name, v)]) := by
  simp [bind, lookup_of_not_mem h, put_of_not_mem v h]

/-- A name that is bound at the same type gets its new value in place. -/
theorem bind_append_cons {b rest : Bindings} {name : String} {v w : Value}
    (h : name ∉ b.map (·.1)) (ht : w.type = v.type) :
    Bindings.bind (b ++ (name, w) :: rest) name v = .ok (b ++ (name, v) :: rest) := by
  simp [bind, lookup_append_cons w h, ht, put_append_cons v w h]

end Expr.Bindings

namespace Rules

open FraudScreen.Expr (Bindings)

/-- Names that are all new are bound one after another. -/
theorem bindAll_fresh : ∀ (vs b : Bindings), ((b ++ vs).map (·.1)).Nodup → bindAll b vs = (b ++ vs, none)
  | [], b, _ => by simp [bindAll]
  | (name, v) :: rest, b, h => by
    have hn : name ∉ b.map (·.1) := by
      simp only [List.map_append, List.map_cons] at h
      exact fun hm => (List.nodup_append.1 h).2.2 name hm name (List.mem_cons_self ..) rfl
    have ih := bindAll_fresh rest (b ++ [(name, v)]) (by simpa using h)
    simp only [bindAll, Bindings.bind_of_not_mem v hn, ih, List.append_assoc, List.singleton_append]

/-- Names that are all bound at the types of their new values get these values in place. -/
theorem bindAll_refresh : ∀ (vs old b : Bindings), Bindings.signature old = Bindings.signature vs →
    ((b ++ vs).map (·.1)).Nodup → bindAll (b ++ old) vs = (b ++ vs, none)
  | [], old, b, hs, _ => by
    have : old = [] := by simpa [Bindings.signature] using hs
    simp [bindAll, this]
  | (name, v) :: rest, [], b, hs, _ => by simp [Bindings.signature] at hs
  | (name, v) :: rest, (n, w) :: old, b, hs, h => by
    simp only [Bindings.signature, List.map_cons, List.cons.injEq, Prod.mk.injEq] at hs
    obtain ⟨⟨rfl, ht⟩, hs⟩ := hs
    have hn : n ∉ b.map (·.1) := by
      simp only [List.map_append, List.map_cons] at h
      exact fun hm => (List.nodup_append.1 h).2.2 n hm n (List.mem_cons_self ..) rfl
    have ih := bindAll_refresh rest old (b ++ [(n, v)]) hs (by simpa using h)
    simp only [List.append_assoc, List.singleton_append] at ih
    simp only [bindAll, Bindings.bind_append_cons hn ht, ih]

namespace Context

/-- The names and types of the variables of every context. -/
def signature : List (String × Expr.ValueType) :=
  [("amount", .float), ("merchant_category", .float), ("customer_risk_score", .float),
   ("account_age_days", .float), ("merchant_risk", .float), ("hourly_count", .float),
   ("amount_sum", .float), ("ip_blacklist_match", .float), ("currency", .text), ("merchant_id", .text),
   ("pos_entry_mode", .text), ("card_token", .text), ("issuer_country", .text), ("card_brand", .text),
   ("ip_address", .text), ("device_fingerprint", .text), ("user_agent", .text), ("customer_id", .text)]

theorem signature_values (c : Context) : Bindings.signature c.values = signature := rfl

theorem names_nodup (c : Context) : (c.values.map (·.1)).Nodup := by
  rw [← Bindings.map_fst_signature, signature_values]
  decide

end Context

/-- A table that no rule can tell from an empty one once a context is bound: it is empty, or has the
variables of contexts and no others. -/
def IsContextTable (b : Bindings) : Prop := b = [] ∨ Bindings.signature b = Context.signature

theorem Context.isContextTable_values (c : Context) : IsContextTable c.values := .inr c.signature_values

/-- **Binding replaces everything.** Whatever context was bound before, the table is that of the new one. -/
theorem Context.bind_eq_values (c : Context) {b : Bindings} (h : IsContextTable b) :
    c.bind b = (c.values, none) := by
  rcases h with rfl | h
  · exact bindAll_fresh c.values [] (by simpa using c.names_nodup)
  · exact bindAll_refresh c.values b [] (h.trans c.signature_values.symm) (by simpa using c.names_nodup)

end Rules

end FraudScreen
