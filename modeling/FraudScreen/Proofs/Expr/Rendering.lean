import FraudScreen.Proofs.Expr.Truthiness

/-!
# Relations between a text and its rewriting

Rewriting renders the outline of a text, and printing the outline gives the text back. So whatever relation the parts
of an outline respect holds between a text and its rewriting: `rel_withTruthiness`. A relation is asked only about the
marks that occur (`Respects`). A closing parenthesis without a partner separates clauses at the top alone, never
within a group or an operand (`within_outline`), so it may be related more loosely.
-/
namespace FraudScreen.Expr

open Text

/-! ## The marks of an outline -/

section

variable (P : Mark → Prop)

mutual

/-- Every mark in the part satisfies `P`, the parentheses of groups aside. -/
def Part.MadeOf : Part → Prop
  | .char c => P (.char c)
  | .text literal => P (.text literal)
  | .link op => P (.link op)
  | .stop c => P (.stop c)
  | .group body _ => AllMadeOf body
  | .not blanks operand => P .bang ∧ (∀ c ∈ blanks, isBlank c) ∧ AllMadeOf operand

def AllMadeOf : List Part → Prop
  | [] => True
  | part :: rest => part.MadeOf ∧ AllMadeOf rest

end

/-- The part is made of such marks, or it is a closing parenthesis without a partner where one may stand. -/
def Part.Within (stray : Prop) (part : Part) : Prop := part.MadeOf P ∨ (stray ∧ part = .stop ')')

def Loose.Within (stray : Prop) : Loose → Prop
  | none => P .bang
  | some part => part.Within P stray

/-- The parts of open groups, the innermost first. Closing parentheses without a partner are in the outermost. -/
def StackWithin : List (List Loose) → Prop
  | [] => True
  | group :: outer => (∀ l ∈ group, l.Within P (outer = [])) ∧ StackWithin outer

end

section

variable {P : Mark → Prop}

theorem allMadeOf_iff {ps : List Part} : AllMadeOf P ps ↔ ∀ p ∈ ps, p.MadeOf P := by
  induction ps with
  | nil => simp [AllMadeOf]
  | cons p ps ih => simp [AllMadeOf, ih]

theorem ne_stop_of_mem_takeBare {parts : List Part} {p : Part} (h : p ∈ (takeBare parts).1) (c : Char) :
    p ≠ .stop c := by
  unfold takeBare at h
  generalize spanChars isOperandPart parts = span at h
  obtain ⟨name, rest⟩ := span
  dsimp only at h
  split at h
  · rcases List.mem_append.1 h with h | h
    · obtain ⟨_, _, rfl⟩ := List.mem_map.1 h
      nofun
    · rw [List.mem_singleton.1 h]
      nofun
  · obtain ⟨_, _, rfl⟩ := List.mem_map.1 h
    nofun

/-- An operand of a negation does not go beyond a separator. -/
theorem ne_stop_of_mem_takeOperand {parts : List Part} {p : Part} (h : p ∈ (takeOperand parts).1) (c : Char) :
    p ≠ .stop c := by
  unfold takeOperand at h
  split at h
  · rw [List.mem_singleton.1 h]
    nofun
  · rw [List.mem_singleton.1 h]
    nofun
  · rw [List.mem_singleton.1 h]
    nofun
  · rcases List.mem_cons.1 h with rfl | h
    · nofun
    · exact ne_stop_of_mem_takeBare h c
  · exact ne_stop_of_mem_takeBare h c

theorem within_negateFront {stray : Prop} {parts : List Part} (hb : P .bang)
    (h : ∀ p ∈ parts, p.Within P stray) : ∀ p ∈ negateFront parts, p.Within P stray := by
  rw [← spanChars_append isBlank parts, ← takeOperand_append (spanChars isBlank parts).2,
    List.forall_mem_append, List.forall_mem_append] at h
  refine List.forall_mem_cons.2 ⟨.inl ⟨hb, fun _ => mem_spanChars, allMadeOf_iff.2 fun p hp => ?_⟩, h.2.2⟩
  exact (h.2.1 p hp).resolve_right fun hs => ne_stop_of_mem_takeOperand hp ')' hs.2

theorem within_settle {stray : Prop} : ∀ {ls : List Loose}, (∀ l ∈ ls, l.Within P stray) →
    ∀ p ∈ settle ls, p.Within P stray
  | [], _ => fun _ h => absurd h List.not_mem_nil
  | none :: _, h => within_negateFront (h none (List.mem_cons_self ..))
    (within_settle fun l hl => h l (List.mem_cons_of_mem _ hl))
  | some _ :: _, h => List.forall_mem_cons.2
    ⟨h _ (List.mem_cons_self ..), within_settle fun l hl => h l (List.mem_cons_of_mem _ hl)⟩

theorem StackWithin.push {inner : List Loose} {outer : List (List Loose)} (h : StackWithin P (inner :: outer))
    {l : Loose} (hl : l.Within P (outer = [])) : StackWithin P ((l :: inner) :: outer) :=
  ⟨List.forall_mem_cons.2 ⟨hl, h.1⟩, h.2⟩

/-- A group has no closing parenthesis without a partner in it. -/
theorem StackWithin.close {inner parent : List Loose} {outer : List (List Loose)}
    (h : StackWithin P (inner :: parent :: outer)) (closed : Bool) :
    StackWithin P ((some (.group (settle inner.reverse) closed) :: parent) :: outer) := by
  refine StackWithin.push h.2 (.inl (allMadeOf_iff.2 fun p hp => ?_))
  refine (within_settle (fun l hl => h.1 l (List.mem_reverse.1 hl)) p hp).resolve_right fun hs => ?_
  exact List.cons_ne_nil parent outer hs.1

theorem within_nest {outer : List (List Loose)} {inner : List Loose} {marks : List Mark}
    (h : StackWithin P (inner :: outer)) (hm : ∀ m ∈ marks, m = .opening ∨ m = .closing ∨ P m) :
    ∀ p ∈ nest outer inner marks, p.Within P True := by
  fun_induction nest outer inner marks with
  | case1 inner =>
    refine within_settle fun l hl => ?_
    have hl := h.1 l (List.mem_reverse.1 hl)
    rwa [eq_self] at hl
  | case2 parent outer inner ih =>
    simp only [List.unattach_reverse, List.unattach_attach] at ih
    exact ih (h.close false) hm
  | case3 outer inner rest ih =>
    exact ih ⟨fun _ hl => absurd hl List.not_mem_nil, h⟩ (List.forall_mem_cons.1 hm).2
  | case4 inner rest ih => exact ih (h.push (.inr ⟨rfl, rfl⟩)) (List.forall_mem_cons.1 hm).2
  | case5 parent outer inner rest ih =>
    simp only [List.unattach_reverse, List.unattach_attach] at ih
    exact ih (h.close true) (List.forall_mem_cons.1 hm).2
  | case6 outer inner rest ih =>
    obtain ⟨hb, hm⟩ := List.forall_mem_cons.1 hm
    exact ih (h.push (by simpa [Loose.Within] using hb)) hm
  | case7 outer inner c rest ih | case8 outer inner c rest ih | case9 outer inner c rest ih
  | case10 outer inner c rest ih =>
    obtain ⟨hb, hm⟩ := List.forall_mem_cons.1 hm
    exact ih (h.push (.inl (by simpa [Part.MadeOf] using hb))) hm

/-- **The outline is made of the marks of the text**, and closing parentheses without a partner are at the top. -/
theorem within_outline {cs : List Char} (h : ∀ m ∈ marksOf cs, m = .opening ∨ m = .closing ∨ P m) :
    ∀ p ∈ outline cs, p.Within P True :=
  within_nest ⟨fun _ hl => absurd hl List.not_mem_nil, trivial⟩ h

end

/-! ## Rendering -/

/-- The relation holds between a text and its rewriting if it holds between the marks that satisfy `P` and themselves
and is kept by everything that rewriting does: joining texts, wrapping an operand of a connective, and the
parentheses of groups and negations. -/
structure Respects (P : Mark → Prop) (R : List Char → List Char → Prop) : Prop where
  nil : R [] []
  append {as as' bs bs' : List Char} : R as as' → R bs bs' → R (as ++ bs) (as' ++ bs')
  mark {m : Mark} : P m → R m.print m.print
  wrap {op : Connective} {as as' : List Char} : P (.link op) → R as as' → R as (wrapOperand as')
  group {as as' : List Char} (closed : Bool) : R as as' →
    R ('(' :: as ++ (if closed then [')'] else [])) ('(' :: as' ++ (if closed then [')'] else []))
  not {blanks as as' : List Char} : P .bang → (∀ c ∈ blanks, isBlank c) → R as as' →
    R ('!' :: blanks ++ as) ('!' :: callText as')

section

variable {P : Mark → Prop} {R Q : List Char → List Char → Prop}

/-- What a part renders to is related to the text of the part. Separators are related by `Q`. -/
def Piece.Rel (P : Mark → Prop) (R Q : List Char → List Char → Prop) (source : List Char) : Piece → Prop
  | .plain cs => R source cs
  | .link op => source = op.symbol ∧ P (.link op)
  | .stop c => source = [c] ∧ Q [c] [c]

/-- The operands that connectives have ended are related to the text up to the last of these. -/
inductive Linked (P : Mark → Prop) (R : List Char → List Char → Prop) :
    List (List Char × Connective) → List Char → Prop where
  | nil : Linked P R [] []
  | snoc {linked : List (List Char × Connective)} {source as as' : List Char} {op : Connective}
      (_ : Linked P R linked source) (_ : R as as') (_ : P (.link op)) :
      Linked P R (linked ++ [(as', op)]) (source ++ (as ++ op.symbol))

theorem Linked.rel (hR : Respects P R) {linked : List (List Char × Connective)} {source : List Char}
    (h : Linked P R linked source) :
    R source (linked.flatMap fun (operand, op) => wrapOperand operand ++ op.symbol) := by
  induction h with
  | nil => exact hR.nil
  | snoc _ ha hp ih =>
    rw [List.flatMap_append, List.flatMap_singleton]
    exact hR.append ih (hR.append (hR.wrap hp ha) (hR.mark hp))

theorem Linked.render (hR : Respects P R) {k : Clause} {source as : List Char} (h : Linked P R k.linked source)
    (ha : R as k.current) : R (source ++ as) k.render := by
  obtain ⟨linked, current⟩ := k
  unfold Clause.render
  cases h with
  | nil => exact ha
  | snoc hl hb hp =>
    rw [if_neg (by simp)]
    exact hR.append ((hl.snoc hb hp).rel hR) (hR.wrap hp ha)

/-- Joined parts are related to the text of the parts, by a relation that separators may loosen. -/
theorem rel_joinPieces (hR : Respects P R) (hQ : ∀ {as as'}, R as as' → Q as as')
    (happend : ∀ {as as' bs bs'}, Q as as' → Q bs bs' → Q (as ++ bs) (as' ++ bs')) :
    ∀ {ps : List Part}, (∀ p ∈ ps, p.render.Rel P R Q p.print) → ∀ {k : Clause} {source as : List Char},
      Linked P R k.linked source → R as k.current →
        Q (source ++ as ++ printParts ps) (joinPieces k (renderParts ps))
  | [], _, k, source, as, hl, ha => by
    rw [printParts, List.append_nil]
    exact hQ (hl.render hR ha)
  | p :: ps, h, k, source, as, hl, ha => by
    obtain ⟨hp, hps⟩ := List.forall_mem_cons.1 h
    rw [renderParts, printParts]
    cases hr : p.render with
    | plain cs =>
      rw [hr] at hp
      have hj := rel_joinPieces hR hQ happend hps (k := ⟨k.linked, k.current ++ cs⟩) hl (hR.append ha hp)
      rwa [← List.append_assoc source, List.append_assoc] at hj
    | link op =>
      rw [hr] at hp
      have hl := hl.snoc ha hp.2
      have hj := rel_joinPieces hR hQ happend hps (k := ⟨k.linked ++ [(k.current, op)], []⟩) hl hR.nil
      rw [List.append_nil] at hj
      rwa [hp.1, ← List.append_assoc, List.append_assoc source]
    | stop c =>
      rw [hr] at hp
      have hj := rel_joinPieces hR hQ happend hps (k := .empty) .nil hR.nil
      rw [hp.1]
      exact happend (hQ (hl.render hR ha)) (happend hp.2 hj)

theorem rel_parts (hR : Respects P R) {ps : List Part} (h : ∀ p ∈ ps, p.render.Rel P R R p.print) :
    R (printParts ps) (joinPieces .empty (renderParts ps)) :=
  rel_joinPieces hR id hR.append h (k := .empty) .nil hR.nil

mutual

theorem Part.rel_render (hR : Respects P R) : ∀ p : Part, p.MadeOf P → p.render.Rel P R R p.print
  | .char _, h => hR.mark h
  | .text _, h => hR.mark h
  | .link _, h => ⟨rfl, h⟩
  | .stop _, h => ⟨rfl, hR.mark h⟩
  | .group body closed, h => hR.group closed (rel_parts hR (rel_renderParts hR body h))
  | .not _ operand, h => by
    have hn := hR.not h.1 h.2.1 (rel_parts hR (rel_renderParts hR operand h.2.2))
    rw [callText, ← List.cons_append, ← List.cons_append, ← List.append_assoc] at hn
    exact hn

theorem rel_renderParts (hR : Respects P R) : ∀ ps : List Part, AllMadeOf P ps →
    ∀ p ∈ ps, p.render.Rel P R R p.print
  | [], _ => fun _ h => absurd h List.not_mem_nil
  | p :: ps, h => List.forall_mem_cons.2 ⟨p.rel_render hR h.1, rel_renderParts hR ps h.2⟩

end

/-- **A relation that rewriting respects** holds between a text and its rewriting, loosened by the separators at the
top. -/
theorem rel_withTruthiness (hR : Respects P R) (hQ : ∀ {as as'}, R as as' → Q as as')
    (happend : ∀ {as as' bs bs'}, Q as as' → Q bs bs' → Q (as ++ bs) (as' ++ bs')) (hstray : Q [')'] [')'])
    {cs : List Char} (h : ∀ m ∈ marksOf cs, m = .opening ∨ m = .closing ∨ P m) :
    Q cs (withTruthinessChars cs) := by
  have hp : ∀ p ∈ outline cs, p.render.Rel P R Q p.print := by
    intro p hp
    rcases within_outline h p hp with hm | ⟨-, rfl⟩
    · have hr := p.rel_render hR hm
      revert hr
      cases p.render with
      | plain | link => exact id
      | stop c => exact fun h => ⟨h.1, hQ h.2⟩
    · exact ⟨rfl, hstray⟩
  have hj := rel_joinPieces hR hQ happend hp (k := .empty) .nil hR.nil
  rwa [List.nil_append, List.nil_append, print_outline] at hj

end

end FraudScreen.Expr
