import FraudScreen.Proofs.Expr.Precedence

/-!
# A second pair of parentheses

Two trees may differ in that a group of the one stands alone in a group of the other: `Regrouped`. They have
the same value. What is built from tokens on top of one of two such trees is built on top of the other in the same
way (`addTokens_regrouped`), so a second pair of parentheses around a group changes neither whether an
expression has a tree nor the value of the tree: `ofTokens_regrouped`.
-/
namespace FraudScreen.Expr

open Node

/-! ## Outcomes -/

/-- Both computations fail alike, or both have results, and these are related. -/
inductive SameOutcome {α β : Type} (R : α → β → Prop) : Except SyntaxError α → Except SyntaxError β → Prop where
  | error (e : SyntaxError) : SameOutcome R (.error e) (.error e)
  | ok {a : α} {b : β} (h : R a b) : SameOutcome R (.ok a) (.ok b)

namespace SameOutcome

variable {α β γ δ : Type} {R : α → β → Prop} {S : γ → δ → Prop} {x : Except SyntaxError α}
  {y : Except SyntaxError β}

theorem map (h : SameOutcome R x y) {f : α → γ} {g : β → δ} (hf : ∀ {a b}, R a b → S (f a) (g b)) :
    SameOutcome S (x.map f) (y.map g) := by
  cases h with
  | error e => exact .error e
  | ok h => exact .ok (hf h)

theorem bind (h : SameOutcome R x y) {f : α → Except SyntaxError γ} {g : β → Except SyntaxError δ}
    (hf : ∀ {a b}, R a b → SameOutcome S (f a) (g b)) : SameOutcome S (x >>= f) (y >>= g) := by
  cases h with
  | error e => exact .error e
  | ok h => exact hf h

theorem mono {T : α → β → Prop} (h : SameOutcome R x y) (hT : ∀ {a b}, R a b → T a b) : SameOutcome T x y := by
  cases h with
  | error e => exact .error e
  | ok h => exact .ok (hT h)

/-- A computation with results that are changed in two ways. -/
theorem map_self (x : Except SyntaxError α) {f : α → γ} {g : α → δ} (hf : ∀ a, S (f a) (g a)) :
    SameOutcome S (x.map f) (x.map g) := by
  cases x with
  | error e => exact .error e
  | ok a => exact .ok (hf a)

end SameOutcome

/-! ## Lists -/

/-- The lists are alike but for one member of each, and these two are related. -/
inductive OneOf {α : Type} (R : α → α → Prop) : List α → List α → Prop where
  | head (rest : List α) {a a' : α} (h : R a a') : OneOf R (a :: rest) (a' :: rest)
  | tail (a : α) {as as' : List α} (h : OneOf R as as') : OneOf R (a :: as) (a :: as')

namespace OneOf

variable {α : Type} {R S : α → α → Prop} {as as' : List α}

theorem append (h : OneOf R as as') (more : List α) : OneOf R (as ++ more) (as' ++ more) := by
  induction h with
  | head rest h => exact .head (rest ++ more) h
  | tail a _ ih => exact .tail a ih

theorem append_last (front : List α) {a a' : α} (h : R a a') : OneOf R (front ++ [a]) (front ++ [a']) := by
  induction front with
  | nil => exact .head [] h
  | cons b front ih => exact .tail b ih

theorem mono (h : OneOf R as as') (hS : ∀ {a a'}, R a a' → S a a') : OneOf S as as' := by
  induction h with
  | head rest h => exact .head rest (hS h)
  | tail a _ ih => exact .tail a ih

theorem length_eq (h : OneOf R as as') : as.length = as'.length := by
  induction h with
  | head => rfl
  | tail a _ ih => exact congrArg (· + 1) ih

theorem ne_nil (h : OneOf R as as') : as ≠ [] ∧ as' ≠ [] := by
  cases h <;> exact ⟨List.cons_ne_nil _ _, List.cons_ne_nil _ _⟩

/-- The last member is the one that differs, or one before it is. -/
theorem exists_last (h : OneOf R as as') : ∃ front front' last last', as = front ++ [last] ∧
    as' = front' ++ [last'] ∧ ((front = front' ∧ R last last') ∨ (OneOf R front front' ∧ last = last')) := by
  induction h with
  | @head rest a a' h =>
    rcases List.eq_nil_or_concat rest with rfl | ⟨front, last, rfl⟩
    · exact ⟨[], [], a, a', rfl, rfl, .inl ⟨rfl, h⟩⟩
    · exact ⟨a :: front, a' :: front, last, last, by simp, by simp, .inr ⟨.head front h, rfl⟩⟩
  | tail a _ ih =>
    obtain ⟨front, front', last, last', rfl, rfl, hcase⟩ := ih
    exact ⟨a :: front, a :: front', last, last', rfl, rfl,
      hcase.imp (fun ⟨he, h⟩ => ⟨he ▸ rfl, h⟩) fun ⟨h, he⟩ => ⟨.tail a h, he⟩⟩

end OneOf

/-! ## Trees -/

/-- The trees are alike but for a group of the one that is alone in a group of the other. -/
inductive Regrouped : Node → Node → Prop where
  | here {operands : List Node} (h : operands ≠ []) :
      Regrouped (.mk .group operands) (.mk .group [.mk .group operands])
  | within (op : Op) {ns ns' : List Node} (h : OneOf Regrouped ns ns') : Regrouped (.mk op ns) (.mk op ns')

/-- The trees differ in this way, and not at the top. -/
inductive RegroupedAt (op : Op) : Node → Node → Prop where
  | mk {ns ns' : List Node} (h : OneOf Regrouped ns ns') : RegroupedAt op (.mk op ns) (.mk op ns')

section

variable {n n' : Node}

theorem Regrouped.op_eq (h : Regrouped n n') : n.op = n'.op := by cases h <;> rfl

theorem Regrouped.operands_ne_nil (h : Regrouped n n') :
    n.operands.isEmpty = false ∧ n'.operands.isEmpty = false := by
  cases h with
  | here h => exact ⟨List.isEmpty_eq_false_iff.2 h, rfl⟩
  | within _ h => exact ⟨List.isEmpty_eq_false_iff.2 h.ne_nil.1, List.isEmpty_eq_false_iff.2 h.ne_nil.2⟩

theorem RegroupedAt.regrouped {op : Op} (h : RegroupedAt op n n') : Regrouped n n' := by
  obtain ⟨h⟩ := h
  exact .within op h

/-- As the last operand of a node, trees that differ make it differ below the top. -/
theorem Regrouped.pushed (h : Regrouped n n') (parent : Node) :
    RegroupedAt parent.op (parent.push n) (parent.push n') := .mk (.append_last parent.operands h)

end

mutual

/-- A second pair of parentheses does not change the value. -/
theorem Regrouped.eval_eq (b : Bindings) : ∀ {n n' : Node}, Regrouped n n' → n.eval b = n'.eval b
  | .mk _ _, _, .here _ => (eval_group b _).symm
  | .mk _ ns, _, .within _ h => by rw [Node.eval, Node.eval, evalAll_eq b h]

theorem evalAll_eq (b : Bindings) : ∀ {ns ns' : List Node}, OneOf Regrouped ns ns' → evalAll b ns = evalAll b ns'
  | _ :: _, _, .head rest h => by rw [evalAll, evalAll, h.eval_eq b]
  | _ :: _, _, .tail n h => by rw [evalAll, evalAll, evalAll_eq b h]

end

/-! ## Insertion into a tree -/

section

variable (new : Node)

theorem insertLast_cons (parent : Op) (siblings : Bool) (first : Node) {ns : List Node} (h : ns ≠ []) :
    insertLast new parent siblings (first :: ns) = (insertLast new parent true ns).map (first :: ·) := by
  obtain ⟨second, rest, rfl⟩ := List.exists_cons_of_ne_nil h
  rw [insertLast]

theorem insertLast_ne_nil {parent : Op} {siblings : Bool} {ns grown : List Node}
    (h : insertLast new parent siblings ns = .ok grown) : grown ≠ [] := by
  match ns with
  | [] =>
    rw [insertLast] at h
    cases h
  | [last] =>
    rw [insertLast] at h
    split at h
    · obtain ⟨_, -, rfl⟩ := map_eq_ok h
      exact List.cons_ne_nil _ _
    · obtain ⟨_, -, rfl⟩ := map_eq_ok h
      exact List.cons_ne_nil _ _
  | first :: second :: rest =>
    rw [insertLast] at h
    obtain ⟨_, -, rfl⟩ := map_eq_ok h
    exact List.cons_ne_nil _ _

/-- A group with a node in it is a group, and not empty. -/
theorem insert_group {top : Bool} {operands : List Node} {grown : Node}
    (h : Node.insert new top (.mk .group operands) = .ok grown) :
    ∃ operands', grown = .mk .group operands' ∧ operands' ≠ [] := by
  rw [Node.insert] at h
  split at h
  · rw [if_neg (by decide)] at h
    split at h
    · obtain ⟨operands', ho, rfl⟩ := map_eq_ok h
      exact ⟨operands', rfl, insertLast_ne_nil new ho⟩
    · cases h
      exact ⟨operands ++ [new], rfl, by simp⟩
  · cases h

/-- What goes into a group goes into it within another group. -/
theorem insert_group_group (operands : List Node) :
    Node.insert new false (.mk .group [.mk .group operands]) =
      (Node.insert new false (.mk .group operands)).map fun grown => .mk .group [grown] := by
  rw [Node.insert]
  cases ha : Op.admits .group new.op with
  | true =>
    have hlast : insertLast new .group false [.mk .group operands] =
        (Node.insert new false (.mk .group operands)).map ([·]) := by
      rw [insertLast]
      exact if_pos ha
    rw [Bool.true_or, if_pos rfl, if_neg (by decide), if_pos (by rfl), hlast]
    cases Node.insert new false (.mk .group operands) <;> rfl
  | false =>
    rw [Node.insert, ha]
    rfl

theorem displace_regrouped (parent : Op) (siblings : Bool) {last last' : Node} (h : Regrouped last last') :
    SameOutcome Regrouped (displace parent siblings last new) (displace parent siblings last' new) := by
  unfold displace
  rw [h.op_eq]
  split
  · exact .error _
  split
  · exact .error _
  split
  · exact .error _
  · exact .ok (h.pushed new).regrouped

mutual

/-- A node goes into both trees, or into neither. -/
theorem insert_regrouped : ∀ {n n' : Node}, Regrouped n n' →
    SameOutcome Regrouped (Node.insert new false n) (Node.insert new false n')
  | .mk _ operands, _, .here h => by
    rw [insert_group_group]
    cases hi : Node.insert new false (.mk .group operands) with
    | error e => exact .error e
    | ok grown =>
      obtain ⟨operands', rfl, hne⟩ := insert_group new hi
      exact .ok (.here hne)
  | .mk op ns, .mk _ ns', .within _ h => (insert_regroupedAt op false h).mono RegroupedAt.regrouped

theorem insert_regroupedAt (op : Op) (top : Bool) : ∀ {ns ns' : List Node}, OneOf Regrouped ns ns' →
    SameOutcome (RegroupedAt op) (Node.insert new top (.mk op ns)) (Node.insert new top (.mk op ns'))
  | ns, ns', h => by
    rw [Node.insert, Node.insert, h.length_eq]
    split
    · split
      · exact .error _
      split
      · exact (insertLast_regrouped op false h).map .mk
      · exact .ok (.mk (h.append [new]))
    · exact .error _

theorem insertLast_regrouped (parent : Op) (siblings : Bool) : ∀ {ns ns' : List Node}, OneOf Regrouped ns ns' →
    SameOutcome (OneOf Regrouped) (Node.insertLast new parent siblings ns) (Node.insertLast new parent siblings ns')
  | [n], [n'], .head _ h => by
    rw [Node.insertLast, Node.insertLast, h.op_eq]
    split
    · exact (insert_regrouped h).map (.head [])
    · exact (displace_regrouped new parent siblings h).map (.head [])
  | n :: second :: rest, n' :: _ :: _, .head _ h => by
    rw [Node.insertLast, Node.insertLast]
    exact .map_self _ fun grown => .head grown h
  | n :: ns, _ :: ns', .tail _ h => by
    rw [insertLast_cons new parent siblings n h.ne_nil.1, insertLast_cons new parent siblings n h.ne_nil.2]
    exact (insertLast_regrouped parent true h).map (.tail n)

end

end

/-! ## Insertion of a tree -/

section

variable {new new' : Node} (h : Regrouped new new')

include h

/-- Groups that are not empty do not take the place of an operand, and other nodes get it as their last one. -/
theorem displace_new_regrouped (parent : Op) (siblings : Bool) (last : Node) :
    SameOutcome Regrouped (displace parent siblings last new) (displace parent siblings last new') := by
  unfold displace
  rw [← h.op_eq, h.operands_ne_nil.1, h.operands_ne_nil.2]
  split
  · exact .error _
  split
  · exact .error _
  split
  · exact .error _
  · rename_i hgroup
    cases h with
    | here => exact absurd rfl hgroup
    | within op h => exact .ok (.within op (h.append [last]))

mutual

/-- Of two trees that differ, both are put into a tree, or neither. -/
theorem insert_new_regrouped (top : Bool) : ∀ n : Node,
    SameOutcome (RegroupedAt n.op) (Node.insert new top n) (Node.insert new' top n)
  | .mk op ns => by
    rw [Node.insert, Node.insert, h.op_eq]
    split
    · split
      · exact .error _
      split
      · exact (insertLast_new_regrouped op false ns).map .mk
      · exact .ok (h.pushed (.mk op ns))
    · exact .error _

theorem insertLast_new_regrouped (parent : Op) (siblings : Bool) : ∀ ns : List Node,
    SameOutcome (OneOf Regrouped) (Node.insertLast new parent siblings ns) (Node.insertLast new' parent siblings ns)
  | [] => by
    rw [Node.insertLast, Node.insertLast]
    exact .error _
  | [last] => by
    rw [Node.insertLast, Node.insertLast, h.op_eq]
    split
    · exact (insert_new_regrouped false last).map fun h => .head [] h.regrouped
    · exact (displace_new_regrouped h parent siblings last).map (.head [])
  | first :: second :: rest => by
    rw [Node.insertLast, Node.insertLast]
    exact (insertLast_new_regrouped parent true (second :: rest)).map (.tail first)

end

end

/-! ## Open groups -/

/-- A group or sequence that is still open differs below the top. A node that is added to a sequence goes into its
last member as it does into a whole group, so the members of a sequence differ below their tops too. -/
inductive OpenRegrouped : Node → Node → Prop where
  | group {op : Op} (hop : op.isSequence = false) {ns ns' : List Node} (h : OneOf Regrouped ns ns') :
      OpenRegrouped (.mk op ns) (.mk op ns')
  | members (op : Op) {ns ns' : List Node} (h : OneOf (fun n n' => ∃ op, RegroupedAt op n n') ns ns') :
      OpenRegrouped (.mk op ns) (.mk op ns')

namespace OpenRegrouped

variable {n n' : Node}

theorem regroupedAt (h : OpenRegrouped n n') : RegroupedAt n.op n n' := by
  cases h with
  | group _ h => exact .mk h
  | members _ h => exact .mk (h.mono fun ⟨_, h⟩ => h.regrouped)

theorem regrouped (h : OpenRegrouped n n') : Regrouped n n' := h.regroupedAt.regrouped

theorem length_eq (h : OpenRegrouped n n') : n.operands.length = n'.operands.length := by
  cases h with
  | group _ h => exact h.length_eq
  | members _ h => exact h.length_eq

theorem push (h : OpenRegrouped n n') (child : Node) : OpenRegrouped (n.push child) (n'.push child) := by
  cases h with
  | group hop h => exact .group hop (h.append [child])
  | members op h => exact .members op (h.append [child])

/-- What was open becomes the last operand of what is open around it. -/
theorem pushed (h : OpenRegrouped n n') (parent : Node) : OpenRegrouped (parent.push n) (parent.push n') :=
  .members parent.op (.append_last parent.operands ⟨n.op, h.regroupedAt⟩)

end OpenRegrouped

/-- One of the groups that are still open differs. -/
abbrev StackRegrouped : List Node → List Node → Prop := OneOf OpenRegrouped

theorem foldTighter_regrouped {goal : Op} : ∀ {rest rest' : List Node} {top top' : Node},
    StackRegrouped (top :: rest) (top' :: rest') →
      SameOutcome (fun p p' => StackRegrouped (p.1 :: p.2) (p'.1 :: p'.2)) (foldTighter goal top rest)
        (foldTighter goal top' rest')
  | [], _, _, _, .head _ h => .error _
  | next :: below, _, top, top', .head _ h => by
    rw [foldTighter, foldTighter]
    split
    · exact foldTighter_regrouped (.head below (h.pushed next))
    · exact .ok (.head (next :: below) h)
  | next :: below, _, top, _, .tail _ (.head _ h) => by
    rw [foldTighter, foldTighter, h.regrouped.op_eq]
    split
    · exact foldTighter_regrouped (.head below (h.push top))
    · exact .ok (.tail top (.head below h))
  | next :: below, _ :: below', top, _, .tail _ (.tail _ h) => by
    rw [foldTighter, foldTighter]
    split
    · exact foldTighter_regrouped (.tail (next.push top) h)
    · exact .ok (.tail top (.tail next h))

theorem endSequences_regrouped : ∀ {rest rest' : List Node} {top top' : Node},
    StackRegrouped (top :: rest) (top' :: rest') →
      SameOutcome (fun ns ns' => StackRegrouped ns ns' ∧ ∀ group ∈ ns.head?, group.op.isGroup)
        (endSequences top rest) (endSequences top' rest')
  | rest, _, top, top', .head _ h => by
    rw [endSequences.eq_def, endSequences.eq_def, ← h.regrouped.op_eq, ← h.length_eq]
    split
    · rename_i hg
      split
      · exact .error _
      · exact .ok ⟨.head rest h, by simpa using hg⟩
    · cases rest with
      | nil => exact .error _
      | cons next below => exact endSequences_regrouped (.head below (h.pushed next))
  | next :: below, next' :: below', top, _, .tail _ hrest => by
    have hpush : StackRegrouped (next.push top :: below) (next'.push top :: below') := by
      cases hrest with
      | head _ h => exact .head below (h.push top)
      | tail _ h => exact .tail (next.push top) h
    rw [endSequences, endSequences]
    split
    · rename_i hg
      split
      · exact .error _
      · exact .ok ⟨.tail top hrest, by simpa using hg⟩
    · exact endSequences_regrouped hpush

/-- Only a sequence binds its members less tightly than a sequence. -/
theorem precedence_lt_of_sequence {o op : Op} (ho : o.isSequence = false) (hop : op.isSequence) :
    ¬ o.precedence < op.precedence := by
  cases op with
  | tuple | chain => cases o <;> simp_all [Op.isSequence, Op.precedence]
  | _ => cases hop

theorem addSeparator_regrouped {op : Op} (hop : op.isSequence) {rest rest' : List Node} {top top' : Node}
    (h : StackRegrouped (top :: rest) (top' :: rest')) :
    SameOutcome StackRegrouped (addSeparator op top rest) (addSeparator op top' rest') := by
  have hfold : SameOutcome StackRegrouped
      ((foldTighter op top rest).map fun p => .mk op [p.1] :: p.2)
      ((foldTighter op top' rest').map fun p => .mk op [p.1] :: p.2) := by
    refine (foldTighter_regrouped h).map fun {p p'} hp => ?_
    obtain ⟨folded, left⟩ := p
    obtain ⟨folded', left'⟩ := p'
    cases hp with
    | head _ h => exact .head left (h.pushed (.mk op []))
    | tail _ h => exact .tail _ h
  unfold addSeparator
  cases h with
  | head _ h =>
    rw [← h.regrouped.op_eq]
    split
    · exact .ok (.head rest (h.push .emptyGroup))
    split
    · exact .ok (.head _ (.members op (.head _ ⟨top.op, h.regroupedAt⟩)))
    split
    · rename_i hp
      cases h with
      | group ho _ => exact absurd hp (precedence_lt_of_sequence ho hop)
      | members o h =>
        obtain ⟨front, front', last, last', rfl, rfl, ⟨rfl, hlast⟩ | ⟨hfront, rfl⟩⟩ := h.exists_last
        · simp only [Node.operands, Node.op, List.getLast?_concat, List.dropLast_concat]
          exact .ok (.head _ (.members op (.head _ hlast)))
        · simp only [Node.operands, Node.op, List.getLast?_concat, List.dropLast_concat]
          exact .ok (.tail _ (.head rest (.members o hfront)))
    · exact hfold
  | tail _ h =>
    split
    · exact .ok (.tail _ h)
    split
    · exact .ok (.tail _ (.tail _ h))
    split
    · split
      · exact .ok (.tail _ (.tail _ h))
      · exact .error _
    · exact hfold

/-- An open group, or the last member of an open sequence, with one more node in it. -/
def grow (new : Node) : Node → Except SyntaxError Node
  | .mk op ns =>
    if op.isSequence then
      match ns.getLast? with
      | some last => (Node.insert new true last).map fun grown => .mk op (ns.dropLast ++ [grown])
      | none => .error .unmatchedClose
    else Node.insert new true (.mk op ns)

theorem addNode_eq {new : Node} (hn : new.op.isSequence = false) (top : Node) (below : List Node) :
    addNode new (top :: below) = (grow new top).map (· :: below) := by
  obtain ⟨op, ns⟩ := top
  rw [addNode, hn, grow]
  cases hs : op.isSequence with
  | false =>
    have hs : (Node.mk op ns).op.isSequence = false := hs
    rw [hs]
    rfl
  | true =>
    have hs : (Node.mk op ns).op.isSequence = true := hs
    rw [hs]
    cases hl : ns.getLast? with
    | none =>
      simp only [Node.operands, hl]
      rfl
    | some last =>
      simp only [Node.operands, hl]
      cases Node.insert new true last <;> rfl

theorem grow_regrouped (new : Node) {n n' : Node} (h : OpenRegrouped n n') :
    SameOutcome OpenRegrouped (grow new n) (grow new n') := by
  cases h with
  | @group op ho ns ns' h =>
    rw [grow, grow, ho]
    refine (insert_regroupedAt new op true h).mono fun h => ?_
    obtain ⟨h⟩ := h
    exact .group ho h
  | @members op ns ns' h =>
    rw [grow, grow]
    split
    · obtain ⟨front, front', last, last', rfl, rfl, ⟨rfl, o, hlast⟩ | ⟨hfront, rfl⟩⟩ := h.exists_last
      · obtain ⟨hlast⟩ := hlast
        simp only [List.getLast?_concat, List.dropLast_concat]
        exact (insert_regroupedAt new o true hlast).map fun h => .members op (.append_last front ⟨o, h⟩)
      · simp only [List.getLast?_concat, List.dropLast_concat]
        exact .map_self _ fun grown => .members op (hfront.append [grown])
    · rename_i hs
      have hns : OneOf Regrouped ns ns' := h.mono fun hn => hn.elim fun _ h => h.regrouped
      refine (insert_regroupedAt new op true hns).mono fun h => ?_
      obtain ⟨h⟩ := h
      exact .group (by simpa using hs) h

theorem grow_new_regrouped {new new' : Node} (h : Regrouped new new') (n : Node) :
    SameOutcome OpenRegrouped (grow new n) (grow new' n) := by
  obtain ⟨op, ns⟩ := n
  rw [grow, grow]
  split
  · split
    · rename_i last _
      exact (insert_new_regrouped h true last).map fun h => .members op (.append_last _ ⟨last.op, h⟩)
    · exact .error _
  · rename_i hs
    refine (insert_new_regrouped h true (.mk op ns)).mono fun h => ?_
    obtain ⟨h⟩ := h
    have ho : op.isSequence = false := by simpa using hs
    exact .group ho h

/-- A node is added to both stacks, or to neither. -/
theorem addNode_regrouped (new : Node) : ∀ {ns ns' : List Node}, StackRegrouped ns ns' →
    SameOutcome StackRegrouped (addNode new ns) (addNode new ns')
  | top :: below, top' :: below', h => by
    cases hn : new.op.isSequence with
    | true =>
      rw [addNode, addNode, if_pos hn, if_pos hn]
      exact addSeparator_regrouped hn h
    | false =>
      rw [addNode_eq hn, addNode_eq hn]
      cases h with
      | head _ h => exact (grow_regrouped new h).map (.head below)
      | tail _ h => exact .map_self _ fun grown => .tail grown h

/-- Of two groups that differ, both are added to the stack, or neither. -/
theorem addNode_new_regrouped {new new' : Node} (h : Regrouped new new') (hg : new.op.isGroup) :
    ∀ ns : List Node, SameOutcome StackRegrouped (addNode new ns) (addNode new' ns)
  | [] => .error _
  | top :: below => by
    have hs : new.op.isSequence = false := by
      obtain ⟨operands, rfl⟩ := eq_group hg
      rfl
    rw [addNode_eq hs, addNode_eq (h.op_eq ▸ hs)]
    exact (grow_new_regrouped h top).map (.head below)

theorem closeGroup_regrouped : ∀ {ns ns' : List Node}, StackRegrouped ns ns' →
    SameOutcome StackRegrouped (closeGroup ns) (closeGroup ns')
  | [_], [_], _ => .error _
  | [_], _ :: _ :: _, .tail _ h => by cases h
  | _ :: _ :: _, [_], .tail _ h => by cases h
  | top :: next :: below, top' :: next' :: below', h => by
    rw [closeGroup, closeGroup]
    refine (endSequences_regrouped h).bind fun {stack stack'} hs => ?_
    obtain ⟨hs, hgroup⟩ := hs
    cases hs with
    | @head rest g g' h => exact addNode_new_regrouped h.regrouped (hgroup g rfl) rest
    | @tail g _ _ h => exact addNode_regrouped g h

theorem addToken_regrouped (after : Bool) (t : Token) (next : Option Token) {ns ns' : List Node}
    (h : StackRegrouped ns ns') :
    SameOutcome StackRegrouped (addToken after t next ns) (addToken after t next ns') := by
  match t with
  | .const _ | .name _ => exact addNode_regrouped _ h
  | .sign s =>
    cases s with
    | opening => exact .ok (.tail _ h)
    | closing => exact closeGroup_regrouped h
    | _ => exact addNode_regrouped _ h

/-- **Tokens go the same way** on top of groups that differ. -/
theorem addTokens_regrouped : ∀ (ts : List Token) (after : Bool) {ns ns' : List Node}, StackRegrouped ns ns' →
    SameOutcome StackRegrouped (addTokens after ns ts) (addTokens after ns' ts)
  | [], _, _, _, h => .ok h
  | t :: ts, after, ns, ns', h => by
    rw [addTokens, addTokens]
    exact (addToken_regrouped after t ts.head? h).bind fun h => addTokens_regrouped ts t.endsOperand h

/-! ## Whole expressions -/

theorem addNode_ne_nil {new : Node} {ns ns' : List Node} (h : addNode new ns = .ok ns') : ns' ≠ [] := by
  match ns with
  | [] => cases h
  | top :: below =>
    cases hn : new.op.isSequence with
    | false =>
      rw [addNode_eq hn] at h
      obtain ⟨_, -, rfl⟩ := map_eq_ok h
      exact List.cons_ne_nil _ _
    | true =>
      rw [addNode, if_pos hn, addSeparator] at h
      split at h
      · cases h
        exact List.cons_ne_nil _ _
      split at h
      · cases h
        exact List.cons_ne_nil _ _
      split at h
      · split at h
        · cases h
          exact List.cons_ne_nil _ _
        · cases h
      · obtain ⟨_, -, rfl⟩ := map_eq_ok h
        exact List.cons_ne_nil _ _

/-- There is always a group that is still open, as one is to begin with. -/
theorem addToken_ne_nil {after : Bool} {t : Token} {next : Option Token} {ns ns' : List Node}
    (h : addToken after t next ns = .ok ns') : ns' ≠ [] := by
  match t with
  | .const _ | .name _ => exact addNode_ne_nil h
  | .sign s =>
    cases s with
    | opening =>
      cases h
      exact List.cons_ne_nil _ _
    | closing =>
      match ns with
      | [] | [_] => cases h
      | top :: next :: below =>
        obtain ⟨ended, -, h⟩ := bind_eq_ok h
        match ended with
        | [] => cases h
        | group :: rest => exact addNode_ne_nil h
    | _ => exact addNode_ne_nil h

/-- Tokens in parentheses, before other tokens. -/
def groupTokens (ts back : List Token) : List Token := .sign .opening :: (ts ++ .sign .closing :: back)

section

variable {ts : List Token} {operands : List Node} (h : ofTokens ts = .ok (.mk .group operands))
  (hne : operands ≠ []) (back : List Token)

include h hne

theorem addTokens_group_regrouped : ∀ (front : List Token) (after : Bool) {ns : List Node}, ns ≠ [] →
    SameOutcome StackRegrouped (addTokens after ns (front ++ groupTokens ts back))
      (addTokens after ns (front ++ groupTokens (groupTokens ts []) back))
  | [], after, around :: below, _ => by
    have hgroup : ofTokens (groupTokens ts []) = .ok (.mk .group [.mk .group operands]) := ofTokens_group h
    rw [List.nil_append, List.nil_append, groupTokens, groupTokens, addTokens_group h, addTokens_group hgroup]
    exact (addNode_new_regrouped (.here hne) rfl _).bind fun h => addTokens_regrouped back true h
  | t :: front, after, ns, hns => by
    have hnext : (front ++ groupTokens (groupTokens ts []) back).head? =
        (front ++ groupTokens ts back).head? := by cases front <;> rfl
    rw [List.cons_append, List.cons_append, addTokens, addTokens, hnext]
    cases ht : addToken after t (front ++ groupTokens ts back).head? ns with
    | error e => exact .error e
    | ok ns' => exact addTokens_group_regrouped front t.endsOperand (addToken_ne_nil ht)

/-- **A second pair of parentheses** around the tokens of an expression that is not empty makes no difference. -/
theorem ofTokens_regrouped (front : List Token) :
    SameOutcome Regrouped (ofTokens (front ++ groupTokens ts back))
      (ofTokens (front ++ groupTokens (groupTokens ts []) back)) := by
  rw [ofTokens, ofTokens]
  refine (addTokens_group_regrouped h hne back front false (List.cons_ne_nil _ _)).bind fun {ns ns'} hs => ?_
  obtain ⟨top, below, rfl⟩ := List.exists_cons_of_ne_nil hs.ne_nil.1
  obtain ⟨top', below', rfl⟩ := List.exists_cons_of_ne_nil hs.ne_nil.2
  refine (endSequences_regrouped hs).bind fun {ended ended'} he => ?_
  cases he.1 with
  | head rest h =>
    cases rest with
    | nil => exact .ok h.regrouped
    | cons => exact .error _
  | tail _ h =>
    -- what is still open is not the whole expression
    obtain ⟨_, _, rfl⟩ := List.exists_cons_of_ne_nil h.ne_nil.1
    obtain ⟨_, _, rfl⟩ := List.exists_cons_of_ne_nil h.ne_nil.2
    exact .error _

end

end FraudScreen.Expr
