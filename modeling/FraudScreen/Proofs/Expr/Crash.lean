import FraudScreen.Proofs.Expr.Application
import FraudScreen.Proofs.Expr.Precedence

/-!
# What crashes the evaluator

Of all operations and built-in functions only one can crash, `str::substring`, and it does when an end of the
part lies inside a character. `Node.Cuts` says of a tree that its evaluation comes to such a cut before anything
else goes wrong. Those are the trees that crash (`Node.eval_eq_crash_iff`); all others have a value or an error.
-/
namespace FraudScreen.Text

/-! ## Where a text can be cut -/

/-- The offset lies between characters: so many bytes are those of a text that begins the whole. -/
def IsBoundary (cs : List Char) (n : Nat) : Prop := ∃ before after, cs = before ++ after ∧ byteLength before = n

theorem splitAtByte_append (before after : List Char) :
    splitAtByte (byteLength before) (before ++ after) = some (before, after) := by
  induction before with
  | nil => simp [byteLength, splitAtByte]
  | cons c before ih =>
    obtain ⟨n, hn⟩ : ∃ n, byteLength (c :: before) = n + 1 :=
      Nat.exists_eq_succ_of_ne_zero (by have := c.utf8Size_pos; simp only [byteLength]; omega)
    have hc : c.utf8Size + byteLength before = n + 1 := hn
    have hrest : n + 1 - c.utf8Size = byteLength before := by omega
    have hfits : ¬ n + 1 < c.utf8Size := by omega
    rw [hn, List.cons_append, splitAtByte, if_neg hfits, hrest, ih]
    rfl

theorem byteLength_of_splitAtByte {n : Nat} {cs before after : List Char}
    (h : splitAtByte n cs = some (before, after)) : byteLength before = n := by
  induction cs generalizing n before after with
  | nil =>
    cases n with
    | zero =>
      cases h
      rfl
    | succ n => cases h
  | cons c cs ih =>
    cases n with
    | zero =>
      cases h
      rfl
    | succ n =>
      rw [splitAtByte] at h
      split at h
      · cases h
      · obtain ⟨⟨b, a⟩, hp, hq⟩ := Option.map_eq_some_iff.1 h
        cases hq
        have := ih hp
        rw [byteLength]
        omega

/-- A text can be split exactly between characters. -/
theorem splitAtByte_eq_none_iff {n : Nat} {cs : List Char} : splitAtByte n cs = none ↔ ¬ IsBoundary cs n := by
  constructor
  · rintro h ⟨before, after, rfl, rfl⟩
    rw [splitAtByte_append] at h
    cases h
  · intro h
    cases hs : splitAtByte n cs with
    | none => rfl
    | some p => exact absurd ⟨p.1, p.2, (append_of_splitAtByte hs).symm, byteLength_of_splitAtByte hs⟩ h

/-- A place before another one lies between characters of the whole text if it does in the text up to there. -/
theorem isBoundary_append_iff {upTo rest : List Char} {n : Nat} (h : n ≤ byteLength upTo) :
    IsBoundary (upTo ++ rest) n ↔ IsBoundary upTo n := by
  constructor
  · rintro ⟨before, after, hcs, hn⟩
    obtain ⟨more, rfl, -⟩ | ⟨more, rfl, -⟩ := List.append_eq_append_iff.1 hcs
    · -- what is split off ends where the text does
      rw [byteLength_append] at hn
      have hm : byteLength more = 0 := by omega
      cases more with
      | nil => exact ⟨upTo, [], (List.append_nil _).symm, hn⟩
      | cons c more =>
        have := c.utf8Size_pos
        simp only [byteLength] at hm
        omega
    · exact ⟨before, more, rfl, hn⟩
  · rintro ⟨before, after, rfl, hn⟩
    exact ⟨before, after ++ rest, List.append_assoc .., hn⟩

/-- A part of a text is cut out exactly between characters. -/
theorem sliceBytes_eq_none_iff {cs : List Char} {start stop : Nat} (h : start ≤ stop) :
    sliceBytes cs start stop = none ↔ ¬ (IsBoundary cs start ∧ IsBoundary cs stop) := by
  unfold sliceBytes
  cases hs : splitAtByte stop cs with
  | none =>
    have hstop := splitAtByte_eq_none_iff.1 hs
    simp [hstop]
  | some p =>
    obtain ⟨upTo, rest⟩ := p
    have hcs : upTo ++ rest = cs := append_of_splitAtByte hs
    have hlen : byteLength upTo = stop := byteLength_of_splitAtByte hs
    have hstop : IsBoundary cs stop := ⟨upTo, rest, hcs.symm, hlen⟩
    have hstart : IsBoundary cs start ↔ IsBoundary upTo start := hcs ▸ isBoundary_append_iff (by omega)
    cases hu : splitAtByte start upTo with
    | none =>
      have hn := splitAtByte_eq_none_iff.1 hu
      simp [hu, hstart, hn]
    | some q =>
      have hb : IsBoundary upTo start := by
        rw [← Classical.not_not (a := IsBoundary upTo start), ← splitAtByte_eq_none_iff, hu]
        exact nofun
      simp [hu, hstart, hb, hstop]

end FraudScreen.Text

namespace FraudScreen.Expr

open Text (IsBoundary)

/-! ## Computations that do not crash -/

/-- The computation ends with a value or an error. -/
def Steady {α : Type} (x : Eval α) : Prop := x ≠ .error .crash

@[simp] theorem steady_ok {α : Type} (a : α) : Steady (.ok a) := nofun

@[simp] theorem steady_fail {α : Type} (cause : EvalError) : Steady (fail cause : Eval α) := nofun

/-- Computations one after another do not crash if none of them does. -/
theorem Steady.bind {α β : Type} {x : Eval α} {f : α → Eval β} (hx : Steady x)
    (hf : ∀ a, Steady (f a)) : Steady (x >>= f) := by
  cases x with
  | ok a => exact hf a
  | error e => exact fun h => hx (by cases h; rfl)

/-- After a computation that does not crash, a crash is one of what follows. -/
theorem Steady.bind_eq_crash_iff {α β : Type} {x : Eval α} {f : α → Eval β} (hx : Steady x) :
    (x >>= f) = .error .crash ↔ ∃ a, x = .ok a ∧ f a = .error .crash := by
  cases x with
  | ok a => exact ⟨fun h => ⟨a, rfl, h⟩, fun ⟨_, h, hf⟩ => Except.ok.inj h ▸ hf⟩
  | error e =>
    refine ⟨fun h => absurd ?_ hx, nofun⟩
    cases h
    rfl

@[simp] theorem steady_wantNumber (v : Value) : Steady (wantNumber v) := by
  unfold wantNumber
  split <;> simp

@[simp] theorem steady_wantNumberOrText (v : Value) : Steady (wantNumberOrText v) := by
  unfold wantNumberOrText
  split <;> simp

@[simp] theorem steady_wantBool (v : Value) : Steady (wantBool v) := by
  unfold wantBool
  split <;> simp

@[simp] theorem steady_wantInt (v : Value) : Steady (wantInt v) := by
  unfold wantInt
  split <;> simp

@[simp] theorem steady_wantText (v : Value) : Steady (wantText v) := by
  unfold wantText
  split <;> simp

@[simp] theorem steady_wantTuple (v : Value) : Steady (wantTuple v) := by
  unfold wantTuple
  split <;> simp

theorem steady_wantPair (v : Value) : Steady (wantPair v) :=
  (steady_wantTuple v).bind fun items => by split <;> simp

theorem steady_wantOffset (v : Value) : Steady (wantOffset v) :=
  (steady_wantInt v).bind fun n => by split <;> simp

theorem IntOperation.steady_apply (op : IntOperation) (a b : Int64) : Steady (op.apply a b) := by
  unfold apply
  split <;> simp

theorem steady_arithmetic (op : IntOperation) (v w : Value) : Steady (arithmetic op v w) := by
  refine (steady_wantNumber v).bind fun x => (steady_wantNumber w).bind fun y => ?_
  split
  · exact op.steady_apply _ _
  · simp

theorem steady_addition (v w : Value) : Steady (addition v w) := by
  refine (steady_wantNumberOrText v).bind fun _ => (steady_wantNumberOrText w).bind fun _ => ?_
  split
  · simp
  · exact IntOperation.add.steady_apply _ _
  · split <;> simp

theorem steady_negation (v : Value) : Steady (negation v) := by
  refine (steady_wantNumber v).bind fun x => ?_
  split
  · split <;> simp
  · simp

theorem steady_power (v w : Value) : Steady (power v w) :=
  (steady_wantNumber v).bind fun _ => (steady_wantNumber w).bind fun _ => steady_ok _

theorem steady_compareValues (op : Comparison) (v w : Value) : Steady (compareValues op v w) := by
  refine (steady_wantNumberOrText v).bind fun _ => (steady_wantNumberOrText w).bind fun _ => ?_
  split
  · simp
  · simp
  · exact (steady_wantNumber v).bind fun _ => (steady_wantNumber w).bind fun _ => steady_ok _

theorem steady_connective (f : Bool → Bool → Bool) (v w : Value) :
    Steady (do .ok (.bool (f (← wantBool v) (← wantBool w))) : Eval Value) :=
  (steady_wantBool v).bind fun _ => (steady_wantBool w).bind fun _ => steady_ok _

theorem steady_truthValue (v : Value) : Steady (truthValue v) := by
  unfold truthValue
  split <;> simp

theorem steady_extremes (better : Int → Int → Bool) (betterFloat : Float → Float → Bool) (items : List Value) :
    ∀ n x, Steady (extremes better betterFloat n x items) := by
  induction items with
  | nil => exact fun _ _ => steady_ok _
  | cons v rest ih =>
    intro n x
    cases v with
    | float | int => exact ih _ _
    | _ => exact steady_fail _

theorem steady_holds (items : List Value) (v : Value) : Steady (holds items v) := by
  unfold holds
  split <;> simp

theorem steady_mapM {α β : Type} {f : α → Eval β} (hf : ∀ a, Steady (f a)) (as : List α) : Steady (as.mapM f) := by
  induction as with
  | nil => exact steady_ok _
  | cons a as ih =>
    rw [List.mapM_cons]
    exact (hf a).bind fun _ => ih.bind fun _ => steady_ok _

/-- Of the built-in functions only one can crash. -/
theorem Builtin.steady_apply {f : Builtin} (h : f ≠ .substring) (v : Value) : Steady (f.apply v) := by
  cases f with
  | substring => exact absurd rfl h
  | unary g => exact (steady_wantNumber v).bind fun _ => steady_ok _
  | binary g =>
    exact (steady_wantPair v).bind fun p =>
      (steady_wantNumber p.1).bind fun _ => (steady_wantNumber p.2).bind fun _ => steady_ok _
  | test t => exact (steady_wantNumber v).bind fun _ => steady_ok _
  | typeOf => exact steady_ok _
  | least =>
    exact (steady_wantTuple v).bind fun items => (steady_extremes _ _ items _ _).bind fun _ => steady_ok _
  | greatest =>
    exact (steady_wantTuple v).bind fun items => (steady_extremes _ _ items _ _).bind fun _ => steady_ok _
  | choose =>
    refine (steady_wantTuple v).bind fun items => ?_
    split
    · exact (steady_wantBool _).bind fun _ => steady_ok _
    · exact steady_fail _
  | contains =>
    exact (steady_wantPair v).bind fun p =>
      (steady_wantTuple p.1).bind fun items => (steady_holds items p.2).bind fun _ => steady_ok _
  | containsAny =>
    exact (steady_wantPair v).bind fun p => (steady_wantTuple p.1).bind fun items =>
      (steady_wantTuple p.2).bind fun vs =>
        ((steady_mapM (steady_holds items) vs).bind fun _ => steady_ok _).bind fun _ => steady_ok _
  | lowercase | uppercase | trim => exact (steady_wantText v).bind fun _ => steady_ok _
  | bits op =>
    exact (steady_wantPair v).bind fun p =>
      (steady_wantInt p.1).bind fun _ => (steady_wantInt p.2).bind fun _ => steady_ok _
  | bitNot => exact (steady_wantInt v).bind fun _ => steady_ok _
  | abs | length | render =>
    simp only [apply]
    split <;> simp

/-! ## The cut -/

/-- The value asks `str::substring` for a part of a text, with bounds that are in range. -/
inductive Value.AsksFor : Value → String → Nat → Nat → Prop where
  | toEnd {s : String} {a : Int64} (ha : 0 ≤ a.toInt) (hs : a.toInt.toNat ≤ s.utf8ByteSize) :
    AsksFor (.tuple [.text s, .int a]) s a.toInt.toNat s.utf8ByteSize
  | range {s : String} {a b : Int64} (ha : 0 ≤ a.toInt) (hab : a.toInt.toNat ≤ b.toInt.toNat)
    (hb : 0 ≤ b.toInt) (hs : b.toInt.toNat ≤ s.utf8ByteSize) :
    AsksFor (.tuple [.text s, .int a, .int b]) s a.toInt.toNat b.toInt.toNat

/-- The value asks for a part of which an end lies inside a character. -/
def Value.CutsCharacter (v : Value) : Prop :=
  ∃ s start stop, v.AsksFor s start stop ∧ ¬ (IsBoundary s.toList start ∧ IsBoundary s.toList stop)

theorem substringOf_eq_crash_iff {s : String} {start stop : Nat} :
    substringOf s start stop = .error .crash ↔
      start ≤ stop ∧ stop ≤ s.utf8ByteSize ∧ ¬ (IsBoundary s.toList start ∧ IsBoundary s.toList stop) := by
  unfold substringOf
  split
  · rename_i h
    refine ⟨nofun, ?_⟩
    rintro ⟨h₁, h₂, -⟩
    omega
  · rename_i h
    have h₁ : start ≤ stop := by omega
    have h₂ : stop ≤ s.utf8ByteSize := by omega
    rw [← Text.sliceBytes_eq_none_iff h₁]
    cases Text.sliceBytes s.toList start stop <;> simp [h₁, h₂]

theorem wantOffset_eq_ok_iff {v : Value} {n : Nat} :
    wantOffset v = .ok n ↔ ∃ a : Int64, v = .int a ∧ 0 ≤ a.toInt ∧ a.toInt.toNat = n := by
  cases v with
  | int a =>
    have hw : wantOffset (.int a) = if a.toInt < 0 then fail .outOfBounds else .ok a.toInt.toNat := rfl
    rw [hw]
    split
    · rename_i ha
      refine ⟨nofun, ?_⟩
      rintro ⟨_, hv, hn, -⟩
      cases hv
      omega
    · rename_i ha
      refine ⟨fun h => ⟨a, rfl, by omega, Except.ok.inj h⟩, ?_⟩
      rintro ⟨_, hv, -, hn⟩
      cases hv
      rw [hn]
  | _ => exact ⟨nofun, nofun⟩

/-- `str::substring` crashes exactly for a part of which an end lies inside a character. -/
theorem cutText_eq_crash_iff (v : Value) : cutText v = .error .crash ↔ v.CutsCharacter := by
  rw [cutText, (steady_wantTuple v).bind_eq_crash_iff]
  constructor
  · rintro ⟨items, hv, h⟩
    rw [wantTuple_eq_ok_iff] at hv
    split at h
    · rename_i x y
      obtain ⟨s, hx, h⟩ := (steady_wantText x).bind_eq_crash_iff.1 h
      obtain ⟨start, hy, h⟩ := (steady_wantOffset y).bind_eq_crash_iff.1 h
      obtain ⟨a, rfl, ha, rfl⟩ := wantOffset_eq_ok_iff.1 hy
      obtain ⟨hs, -, hcut⟩ := substringOf_eq_crash_iff.1 h
      rw [hv, wantText_eq_ok_iff.1 hx]
      exact ⟨s, _, _, .toEnd ha hs, hcut⟩
    · rename_i x y z
      obtain ⟨s, hx, h⟩ := (steady_wantText x).bind_eq_crash_iff.1 h
      obtain ⟨start, hy, h⟩ := (steady_wantOffset y).bind_eq_crash_iff.1 h
      obtain ⟨stop, hz, h⟩ := (steady_wantOffset z).bind_eq_crash_iff.1 h
      obtain ⟨a, rfl, ha, rfl⟩ := wantOffset_eq_ok_iff.1 hy
      obtain ⟨b, rfl, hb, rfl⟩ := wantOffset_eq_ok_iff.1 hz
      obtain ⟨hab, hs, hcut⟩ := substringOf_eq_crash_iff.1 h
      rw [hv, wantText_eq_ok_iff.1 hx]
      exact ⟨s, _, _, .range ha hab hb hs, hcut⟩
    · cases h
  · rintro ⟨s, start, stop, hasks, hcut⟩
    cases hasks with
    | @toEnd _ a ha hs =>
      refine ⟨_, rfl, (steady_wantText _).bind_eq_crash_iff.2 ⟨s, rfl, ?_⟩⟩
      refine (steady_wantOffset _).bind_eq_crash_iff.2 ⟨_, wantOffset_eq_ok_iff.2 ⟨a, rfl, ha, rfl⟩, ?_⟩
      exact substringOf_eq_crash_iff.2 ⟨hs, Nat.le_refl _, hcut⟩
    | @range _ a c ha hac hc hs =>
      refine ⟨_, rfl, (steady_wantText _).bind_eq_crash_iff.2 ⟨s, rfl, ?_⟩⟩
      refine (steady_wantOffset _).bind_eq_crash_iff.2 ⟨_, wantOffset_eq_ok_iff.2 ⟨a, rfl, ha, rfl⟩, ?_⟩
      refine (steady_wantOffset _).bind_eq_crash_iff.2 ⟨_, wantOffset_eq_ok_iff.2 ⟨c, rfl, hc, rfl⟩, ?_⟩
      exact substringOf_eq_crash_iff.2 ⟨hac, hs, hcut⟩

/-! ## Calls and operations -/

theorem Builtin.named?_eq_substring_iff {name : String} :
    Builtin.named? name = some .substring ↔ name = "str::substring" := by
  constructor
  · intro h
    unfold named? at h
    split at h <;> first | rfl | cases h
  · rintro rfl
    rfl

theorem callFunction_eq_crash_iff {name : String} {v : Value} :
    callFunction name v = .error .crash ↔ name = "str::substring" ∧ v.CutsCharacter := by
  unfold callFunction
  split
  · rename_i hname
    refine ⟨fun h => absurd h (steady_truthValue v), ?_⟩
    rintro ⟨rfl, -⟩
    exact absurd hname (by decide)
  · split
    · rename_i f hf
      by_cases hs : f = .substring
      · subst hs
        rw [Builtin.named?_eq_substring_iff] at hf
        simp only [hf, true_and]
        exact cutText_eq_crash_iff v
      · refine ⟨fun h => absurd h (Builtin.steady_apply hs v), ?_⟩
        rintro ⟨rfl, -⟩
        exact absurd (Option.some.inj hf).symm hs
    · rename_i hf
      refine ⟨nofun, ?_⟩
      rintro ⟨rfl, -⟩
      cases hf

/-- Of the operations only a call of `str::substring` can crash. -/
theorem Op.apply_eq_crash_iff {b : Bindings} {op : Op} {args : List Value} :
    op.apply b args = .error .crash ↔ op = .call "str::substring" ∧ ∃ v, args = [v] ∧ v.CutsCharacter := by
  have hunary (f : Value → Eval Value) (hf : ∀ v, Steady (f v)) :=
    unary_induction steady_fail args f fun v _ => hf v
  have hbinary (f : Value → Value → Eval Value) (hf : ∀ v w, Steady (f v w)) :=
    binary_induction steady_fail args f fun v w _ => hf v w
  have hnullary (r : Eval Value) (hr : Steady r) := nullary_induction steady_fail args hr
  have hnever (h : Steady (op.apply b args)) (hop : op ≠ .call "str::substring") :
      op.apply b args = .error .crash ↔ op = .call "str::substring" ∧ ∃ v, args = [v] ∧ v.CutsCharacter :=
    ⟨fun hc => absurd hc h, fun hc => absurd hc.1 hop⟩
  cases op with
  | call name =>
    match args with
    | [v] =>
      have hcall : (Op.call name).apply b [v] = callFunction name v := rfl
      rw [hcall, callFunction_eq_crash_iff]
      simp
    | [] | _ :: _ :: _ =>
      refine ⟨nofun, ?_⟩
      rintro ⟨-, v, hv, -⟩
      cases hv
  | add => exact hnever (hbinary _ steady_addition) nofun
  | sub | mul | div | rem => exact hnever (hbinary _ (steady_arithmetic _)) nofun
  | pow => exact hnever (hbinary _ steady_power) nofun
  | neg => exact hnever (hunary _ steady_negation) nofun
  | gt | lt | geq | leq => exact hnever (hbinary _ (steady_compareValues _)) nofun
  | eq | neq => exact hnever (hbinary _ fun _ _ => steady_ok _) nofun
  | and => exact hnever (hbinary _ (steady_connective Bool.and)) nofun
  | or => exact hnever (hbinary _ (steady_connective Bool.or)) nofun
  | not => exact hnever (hunary _ fun v => (steady_wantBool v).bind fun _ => steady_ok _) nofun
  | assign | update => exact hnever (steady_fail _) nofun
  | group | tuple | chain => exact hnever (steady_ok _) nofun
  | const v => exact hnever (hnullary _ (steady_ok v)) nofun
  | write name => exact hnever (hnullary _ (steady_ok _)) nofun
  | read name =>
    refine hnever (hnullary _ ?_) nofun
    split
    · exact steady_ok _
    · exact steady_fail _

/-! ## Trees -/

/-- The evaluation of the tree comes to a cut inside a character: it has the argument of the cut, or the operands
before the one in which the cut is. -/
inductive Node.Cuts (b : Bindings) : Node → Prop where
  | here {argument : Node} {v : Value} (hv : argument.eval b = .ok v) (hcut : v.CutsCharacter) :
    Cuts b (.mk (.call "str::substring") [argument])
  | operand {op : Op} {before after : List Node} {n : Node} (hb : ∀ m ∈ before, ∃ v, m.eval b = .ok v)
    (hn : n.Cuts b) : Cuts b (.mk op (before ++ n :: after))

theorem evalAll_eq_crash {b : Bindings} {before after : List Node} {n : Node}
    (hb : ∀ m ∈ before, ∃ v, m.eval b = .ok v) (hn : n.eval b = .error .crash) :
    evalAll b (before ++ n :: after) = .error .crash := by
  induction before with
  | nil =>
    rw [List.nil_append, evalAll, hn]
    rfl
  | cons m before ih =>
    obtain ⟨v, hv⟩ := hb m List.mem_cons_self
    rw [List.cons_append, evalAll, hv, ok_bind, ih fun m' h' => hb m' (List.mem_cons_of_mem _ h')]
    rfl

theorem eq_singleton_of_evalAll {b : Bindings} {ns : List Node} {v : Value} (h : evalAll b ns = .ok [v]) :
    ∃ n, ns = [n] ∧ n.eval b = .ok v := by
  cases ns with
  | nil => cases h
  | cons n rest =>
    obtain ⟨w, hn, h⟩ := bind_eq_ok h
    obtain ⟨vs, hrest, h⟩ := bind_eq_ok h
    cases h
    cases rest with
    | nil => exact ⟨n, rfl, hn⟩
    | cons m rest =>
      obtain ⟨_, -, h⟩ := bind_eq_ok hrest
      obtain ⟨_, -, h⟩ := bind_eq_ok h
      cases h

theorem Node.Cuts.eval {b : Bindings} {n : Node} (h : n.Cuts b) : n.eval b = .error .crash := by
  induction h with
  | here hv hcut =>
    rw [Node.eval, evalAll, hv, ok_bind, evalAll, ok_bind, ok_bind]
    exact Op.apply_eq_crash_iff.2 ⟨rfl, _, rfl, hcut⟩
  | operand hb _ ih =>
    rw [Node.eval, evalAll_eq_crash hb ih]
    rfl

mutual

theorem Node.cuts_of_eval {b : Bindings} : ∀ {n : Node}, n.eval b = .error .crash → n.Cuts b
  | .mk op operands, h => by
    rw [Node.eval] at h
    cases hargs : evalAll b operands with
    | error e =>
      rw [hargs] at h
      cases h
      obtain ⟨before, n, after, rfl, hb, hn⟩ := cuts_of_evalAll hargs
      exact .operand hb hn
    | ok args =>
      rw [hargs, ok_bind] at h
      obtain ⟨rfl, v, rfl, hcut⟩ := Op.apply_eq_crash_iff.1 h
      obtain ⟨argument, rfl, hv⟩ := eq_singleton_of_evalAll hargs
      exact .here hv hcut

theorem cuts_of_evalAll {b : Bindings} : ∀ {ns : List Node}, evalAll b ns = .error .crash →
    ∃ before n after, ns = before ++ n :: after ∧ (∀ m ∈ before, ∃ v, m.eval b = .ok v) ∧ n.Cuts b
  | [], h => by cases h
  | n :: rest, h => by
    rw [evalAll] at h
    cases hn : n.eval b with
    | error e =>
      rw [hn] at h
      cases h
      exact ⟨[], n, rest, rfl, nofun, Node.cuts_of_eval hn⟩
    | ok v =>
      rw [hn, ok_bind] at h
      cases hrest : evalAll b rest with
      | ok vs =>
        rw [hrest] at h
        cases h
      | error e =>
        rw [hrest] at h
        cases h
        obtain ⟨before, m, after, rfl, hb, hm⟩ := cuts_of_evalAll hrest
        refine ⟨n :: before, m, after, rfl, fun m' h' => ?_, hm⟩
        rcases List.mem_cons.1 h' with rfl | h'
        · exact ⟨v, hn⟩
        · exact hb m' h'

end

/-- **What crashes.** The trees that crash the evaluator are those whose evaluation comes to a cut inside a
character. -/
theorem Node.eval_eq_crash_iff {b : Bindings} {n : Node} : n.eval b = .error .crash ↔ n.Cuts b :=
  ⟨Node.cuts_of_eval, Node.Cuts.eval⟩

end FraudScreen.Expr
