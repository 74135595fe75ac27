import FraudScreen.Proofs.Rules.Binding
import FraudScreen.Rules.Stats
import Mathlib.Algebra.BigOperators.Group.List.Basic
import Mathlib.Algebra.GroupWithZero.Nat
import Mathlib.Data.List.Nodup

/-!
# Counting trials

Statistics are looked up by rule, and what changes those of one rule leaves the others (`Telemetry.stats_update`). As
long as the times of all trials of a rule add up, its statistics count each of them (`Counts.recordAll`), and they do
add up if the sum of all is not too long (`Counts.fitsAll`). A trial that is too long is only half counted
(`stats_record_of_not_fits`): so there are never more hits than evaluations (`AtMost.recordAll`), whatever the times.
-/
namespace FraudScreen.Rules

/-! ## Look-up -/

namespace Telemetry

/-- The rule has statistics. -/
def HasRule (t : Telemetry) (id : String) : Prop := (t.lookup id).isSome

theorem lookup_update (t : Telemetry) (id : String) (f : RuleStats → RuleStats) (x : String) :
    (t.update id f).lookup x = if x = id then some (f (t.stats id)) else t.lookup x := by
  induction t with
  | nil => exact lookup_cons_eq_ite ..
  | cons p rest ih =>
    obtain ⟨name, s⟩ := p
    by_cases hn : name = id
    · subst hn
      by_cases hx : x = name <;> simp [update, stats, lookup_cons_eq_ite, hx]
    · have hs : stats ((name, s) :: rest) id = stats rest id := by
        rw [stats, lookup_cons_eq_ite, if_neg (Ne.symm hn)]
        rfl
      rw [update, if_neg hn, lookup_cons_eq_ite, ih, hs, lookup_cons_eq_ite]
      by_cases hx : x = name
      · subst hx
        simp [hn]
      · simp [hx]

theorem stats_update (t : Telemetry) (id : String) (f : RuleStats → RuleStats) (x : String) :
    (t.update id f).stats x = if x = id then f (t.stats x) else t.stats x := by
  unfold stats
  rw [lookup_update]
  split
  · rename_i hx
    rw [hx]
    rfl
  · rfl

theorem hasRule_update (t : Telemetry) (id : String) (f : RuleStats → RuleStats) (x : String) :
    (t.update id f).HasRule x ↔ t.HasRule x ∨ x = id := by
  unfold HasRule
  rw [lookup_update]
  by_cases hx : x = id <;> simp [hx]

/-- No rule has statistics twice. -/
def OneEach (t : Telemetry) : Prop := (t.map (·.1)).Nodup

theorem map_fst_update (t : Telemetry) (id : String) (f : RuleStats → RuleStats) :
    (t.update id f).map (·.1) = if id ∈ t.map (·.1) then t.map (·.1) else t.map (·.1) ++ [id] := by
  induction t with
  | nil => rfl
  | cons p rest ih =>
    obtain ⟨name, s⟩ := p
    by_cases hn : name = id
    · simp [update, hn]
    · rw [update, if_neg hn, List.map_cons, ih]
      by_cases hid : id ∈ rest.map (·.1) <;> simp [hid, Ne.symm hn]

theorem OneEach.update {t : Telemetry} (h : t.OneEach) (id : String) (f : RuleStats → RuleStats) :
    (t.update id f).OneEach := by
  unfold OneEach
  rw [map_fst_update]
  split
  · exact h
  · rename_i hid
    exact h.append (List.nodup_singleton id) (by simpa using hid)

theorem OneEach.register {t : Telemetry} (h : t.OneEach) (ids : List String) : (t.register ids).OneEach := by
  induction ids generalizing t with
  | nil => exact h
  | cons id ids ih => exact ih (h.update id _)

theorem OneEach.recordAll (as : List Attempt) : ∀ {t : Telemetry}, t.OneEach → (t.recordAll as).OneEach := by
  induction as with
  | nil => exact fun h => h
  | cons a as ih =>
    intro t h
    have ha : (t.record a).OneEach := h.update a.ruleId _
    rw [Telemetry.recordAll]
    split
    · exact ih ha
    · exact ha

theorem OneEach.reset {t : Telemetry} (h : t.OneEach) : t.reset.OneEach := by
  have hm : t.reset.map (·.1) = t.map (·.1) := by simp [Telemetry.reset]
  unfold OneEach
  rwa [hm]

theorem lookup_reset (t : Telemetry) (x : String) : t.reset.lookup x = (t.lookup x).map fun _ => .zero := by
  induction t with
  | nil => rfl
  | cons p rest ih =>
    obtain ⟨name, s⟩ := p
    unfold reset at ih ⊢
    rw [List.map_cons, List.lookup_cons, List.lookup_cons, ih]
    cases x == name <;> rfl

theorem stats_reset (t : Telemetry) (x : String) : t.reset.stats x = .zero := by
  unfold stats
  rw [lookup_reset]
  cases t.lookup x <;> rfl

theorem hasRule_reset (t : Telemetry) (x : String) : t.reset.HasRule x ↔ t.HasRule x := by
  simp [HasRule, lookup_reset]

/-- Rules that become known change no statistics. -/
theorem stats_register (ids : List String) (t : Telemetry) (x : String) : (t.register ids).stats x = t.stats x := by
  induction ids generalizing t with
  | nil => rfl
  | cons id ids ih =>
    have hstep : (t.register (id :: ids)).stats x = (t.update id (·)).stats x := ih _
    rw [hstep, stats_update, ite_self]

theorem hasRule_register (ids : List String) (t : Telemetry) (x : String) :
    (t.register ids).HasRule x ↔ t.HasRule x ∨ x ∈ ids := by
  induction ids generalizing t with
  | nil => simp [register]
  | cons id ids ih =>
    have hstep : (t.register (id :: ids)).HasRule x ↔ (t.update id (·)).HasRule x ∨ x ∈ ids := ih _
    rw [hstep, hasRule_update, List.mem_cons, or_assoc]

@[simp] theorem recordAll_singleton (t : Telemetry) (a : Attempt) : t.recordAll [a] = t.record a := ite_self ..

theorem hasRule_record (t : Telemetry) (a : Attempt) (x : String) :
    (t.record a).HasRule x ↔ t.HasRule x ∨ x = a.ruleId :=
  hasRule_update ..

/-- Trials of rules that have statistics give no other rule any, even if some of the trials are lost. -/
theorem hasRule_recordAll (as : List Attempt) : ∀ {t : Telemetry}, (∀ a ∈ as, t.HasRule a.ruleId) → ∀ x : String,
    (t.recordAll as).HasRule x ↔ t.HasRule x := by
  induction as with
  | nil => exact fun _ _ => .rfl
  | cons a as ih =>
    intro t h x
    rw [List.forall_mem_cons] at h
    have ha (y : String) : (t.record a).HasRule y ↔ t.HasRule y := by
      rw [hasRule_record, or_iff_left_of_imp]
      rintro rfl
      exact h.1
    rw [recordAll]
    split
    · rw [ih (fun c hc => (ha _).2 (h.2 c hc)), ha]
    · exact ha x

end Telemetry

/-! ## Trials of a rule -/

/-- The trial is one of a rule. -/
def Attempt.tries (id : String) (a : Attempt) : Bool := a.ruleId = id

/-- The trial is one of a rule, and triggered. -/
def Attempt.hits (id : String) (a : Attempt) : Bool := a.tries id && a.triggered

/-- The times of the trials of a rule, in nanoseconds. -/
def timesOf (id : String) (as : List Attempt) : List Nat := (as.filter (·.tries id)).map (·.time.nanos)

theorem length_timesOf (id : String) (as : List Attempt) : (timesOf id as).length = as.countP (·.tries id) := by
  rw [timesOf, List.length_map, List.countP_eq_length_filter]

/-- The time of the trials of a rule together. -/
def nanosOf (id : String) (as : List Attempt) : Nat := (timesOf id as).sum

theorem nanosOf_append (id : String) (as bs : List Attempt) :
    nanosOf id (as ++ bs) = nanosOf id as + nanosOf id bs := by
  simp [nanosOf, timesOf]

theorem nanosOf_singleton (id : String) (a : Attempt) :
    nanosOf id [a] = if a.tries id then a.time.nanos else 0 := by
  cases h : a.tries id <;> simp [nanosOf, timesOf, h]

/-- No rule took longer in its trials together than can be told. -/
def InRange (as : List Attempt) : Prop := ∀ id, nanosOf id as ≤ mostNanos

theorem InRange.left {as bs : List Attempt} (h : InRange (as ++ bs)) : InRange as := fun id => by
  have hid := h id
  rw [nanosOf_append] at hid
  omega

theorem InRange.perm {as bs : List Attempt} (h : InRange as) (hp : as.Perm bs) : InRange bs := fun id => by
  have hsum : nanosOf id bs = nanosOf id as := ((hp.filter _).map _).sum_eq.symm
  exact hsum ▸ h id

theorem nanosOf_le_sum (id : String) (as : List Attempt) : nanosOf id as ≤ (as.map (·.time.nanos)).sum := by
  induction as with
  | nil => exact Nat.le_refl _
  | cons a as ih =>
    have happend := nanosOf_append id [a] as
    rw [List.singleton_append, nanosOf_singleton] at happend
    rw [happend, List.map_cons, List.sum_cons]
    split <;> omega

theorem inRange_of_sum_le {as : List Attempt} (h : (as.map (·.time.nanos)).sum ≤ mostNanos) : InRange as :=
  fun id => Nat.le_trans (nanosOf_le_sum id as) h

theorem Duration.total_eq_sum (ds : List Duration) : total ds = (ds.map nanos).sum := by
  induction ds with
  | nil => rfl
  | cons d ds ih => rw [total, ih, List.map_cons, List.sum_cons]

/-! ## One trial -/

namespace Telemetry

theorem stats_record (t : Telemetry) (a : Attempt) (id : String) :
    (t.record a).stats id = if id = a.ruleId then (t.stats id).count a.triggered a.time else t.stats id :=
  t.stats_update _ _ _

theorem fits_iff (t : Telemetry) (a : Attempt) :
    t.fits a = true ↔ (t.stats a.ruleId).time.nanos + a.time.nanos ≤ mostNanos := by
  unfold fits RuleStats.fits Duration.add?
  split <;> simp_all

/-- A trial whose time cannot be added is counted among the evaluations, and that is all. -/
theorem stats_record_of_not_fits {t : Telemetry} {a : Attempt} (h : t.fits a = false) (id : String) :
    (t.record a).stats id =
      if id = a.ruleId then { t.stats id with evaluations := (t.stats id).evaluations + 1 } else t.stats id := by
  rw [stats_record]
  split
  · rename_i hid
    subst hid
    have hnone : (t.stats a.ruleId).time.add? a.time = none := by simpa [fits, RuleStats.fits] using h
    rw [RuleStats.count, hnone]
  · rfl

/-- A trial whose time can be added is counted. -/
theorem stats_record_of_fits {t : Telemetry} {a : Attempt} (h : t.fits a = true) (id : String) :
    ((t.record a).stats id).evaluations = (t.stats id).evaluations + (if a.tries id then 1 else 0) ∧
      ((t.record a).stats id).hits = (t.stats id).hits + (if a.hits id then 1 else 0) ∧
      ((t.record a).stats id).time.nanos = (t.stats id).time.nanos + nanosOf id [a] := by
  rw [stats_record, nanosOf_singleton]
  by_cases hid : id = a.ruleId
  · subst hid
    have hsum : (t.stats a.ruleId).time.add? a.time = some ⟨_, (t.fits_iff a).1 h⟩ := dif_pos _
    cases hb : a.triggered <;> simp [Attempt.hits, Attempt.tries, RuleStats.count, hsum, hb]
  · simp [Attempt.hits, Attempt.tries, hid, Ne.symm hid]

/-! ## All trials -/

theorem ofNat_countP_cons {α : Type} (p : α → Bool) (x : α) (xs : List α) :
    UInt64.ofNat ((x :: xs).countP p) = (if p x then 1 else 0) + UInt64.ofNat (xs.countP p) := by
  rw [List.countP_cons, Nat.add_comm, UInt64.ofNat_add]
  split <;> rfl

/-- **Trials whose times can be added** are counted, one after another. -/
theorem stats_recordAll (as : List Attempt) : ∀ {t : Telemetry}, t.fitsAll as = true → ∀ id : String,
    ((t.recordAll as).stats id).evaluations = (t.stats id).evaluations + .ofNat (as.countP (·.tries id)) ∧
      ((t.recordAll as).stats id).hits = (t.stats id).hits + .ofNat (as.countP (·.hits id)) ∧
      ((t.recordAll as).stats id).time.nanos = (t.stats id).time.nanos + nanosOf id as := by
  induction as with
  | nil =>
    intro t _ id
    exact ⟨(UInt64.add_zero _).symm, (UInt64.add_zero _).symm, rfl⟩
  | cons a as ih =>
    intro t hfits id
    obtain ⟨ha, hrest⟩ := Bool.and_eq_true_iff.1 hfits
    obtain ⟨hevaluations, hhits, hnanos⟩ := ih hrest id
    obtain ⟨hevaluations', hhits', hnanos'⟩ := stats_record_of_fits ha id
    have happend := nanosOf_append id [a] as
    rw [List.singleton_append] at happend
    rw [Telemetry.recordAll, if_pos ha, hevaluations, hhits, hnanos, hevaluations', hhits', hnanos', happend,
      ofNat_countP_cons, ofNat_countP_cons]
    exact ⟨UInt64.add_assoc .., UInt64.add_assoc .., Nat.add_assoc ..⟩

/-- Statistics that count trials: of each rule their number, how many of them triggered, and their time. -/
structure Counts (t : Telemetry) (as : List Attempt) : Prop where
  evaluations : ∀ id, (t.stats id).evaluations = .ofNat (as.countP (·.tries id))
  hits : ∀ id, (t.stats id).hits = .ofNat (as.countP (·.hits id))
  nanos : ∀ id, (t.stats id).time.nanos = nanosOf id as

/-- Statistics depend on what they are of each rule. -/
theorem Counts.congr {t t' : Telemetry} {as : List Attempt} (h : t.Counts as)
    (hs : ∀ id, t'.stats id = t.stats id) : t'.Counts as := by
  refine ⟨fun id => ?_, fun id => ?_, fun id => ?_⟩ <;> rw [hs id]
  · exact h.evaluations id
  · exact h.hits id
  · exact h.nanos id

theorem counts_nil {t : Telemetry} (h : ∀ id, t.stats id = .zero) : t.Counts [] := by
  refine ⟨fun id => ?_, fun id => ?_, fun id => ?_⟩ <;> rw [h id] <;> rfl

theorem Counts.recordAll {t : Telemetry} {past as : List Attempt} (h : t.Counts past)
    (hfits : t.fitsAll as = true) : (t.recordAll as).Counts (past ++ as) := by
  refine ⟨fun id => ?_, fun id => ?_, fun id => ?_⟩
  · rw [(stats_recordAll as hfits id).1, h.evaluations, List.countP_append, UInt64.ofNat_add]
  · rw [(stats_recordAll as hfits id).2.1, h.hits, List.countP_append, UInt64.ofNat_add]
  · rw [(stats_recordAll as hfits id).2.2, h.nanos, nanosOf_append]

theorem Counts.record {t : Telemetry} {past : List Attempt} (h : t.Counts past) {a : Attempt}
    (hfits : t.fits a = true) : (t.record a).Counts (past ++ [a]) := by
  have hone : t.fitsAll [a] = true := by rw [Telemetry.fitsAll, hfits]; rfl
  simpa only [recordAll_singleton] using h.recordAll hone

/-- Times can be added if the sum of all is not too long. -/
theorem Counts.fitsAll (as : List Attempt) : ∀ {t : Telemetry} {past : List Attempt}, t.Counts past →
    InRange (past ++ as) → t.fitsAll as = true := by
  induction as with
  | nil => exact fun _ _ => rfl
  | cons a as ih =>
    intro t past h hrange
    rw [List.append_cons] at hrange
    have ha : t.fits a = true := by
      have hsum := hrange.left a.ruleId
      rw [nanosOf_append, nanosOf_singleton, if_pos (by simp [Attempt.tries])] at hsum
      rwa [t.fits_iff, h.nanos]
    rw [Telemetry.fitsAll, ha, Bool.true_and]
    exact ih (h.record ha) hrange

/-- Statistics that count trials as long as their times are in range do so after more of them. -/
theorem counts_recordAll {t : Telemetry} {past as : List Attempt} (h : InRange past → t.Counts past)
    (hrange : InRange (past ++ as)) : (t.recordAll as).Counts (past ++ as) := by
  have hcounts := h hrange.left
  exact hcounts.recordAll (hcounts.fitsAll as hrange)

/-- Trials that took no time can always be counted. -/
theorem fitsAll_of_zero (as : List Attempt) : ∀ t : Telemetry, (∀ a ∈ as, a.time = .zero) → t.fitsAll as = true := by
  induction as with
  | nil => exact fun _ _ => rfl
  | cons a as ih =>
    intro t h
    rw [List.forall_mem_cons] at h
    have ha : t.fits a = true := by
      simp [Telemetry.fits, RuleStats.fits, Duration.add?, h.1, Duration.zero, Duration.le_most]
    simp [Telemetry.fitsAll, ha, ih _ h.2]

/-! ## Whatever the times -/

/-- A rule has at most `k` trials behind it, and no more of them triggered than were made. -/
def AtMost (t : Telemetry) (id : String) (k : Nat) : Prop :=
  ∃ hits made : Nat, hits ≤ made ∧ made ≤ k ∧
    (t.stats id).hits = .ofNat hits ∧ (t.stats id).evaluations = .ofNat made

theorem AtMost.mono {t : Telemetry} {id : String} {k l : Nat} (h : t.AtMost id k) (hkl : k ≤ l) : t.AtMost id l := by
  obtain ⟨hits, made, hle, hmade, hs⟩ := h
  exact ⟨hits, made, hle, Nat.le_trans hmade hkl, hs⟩

theorem AtMost.record {t : Telemetry} {id : String} {k : Nat} (h : t.AtMost id k) (a : Attempt) :
    (t.record a).AtMost id (k + [a].countP (·.tries id)) := by
  obtain ⟨hits, made, hle, hmade, hh, he⟩ := h
  rw [List.countP_singleton]
  cases hfits : t.fits a with
  | true =>
    obtain ⟨he', hh', -⟩ := stats_record_of_fits hfits id
    rw [he, hh] at *
    cases ht : a.tries id with
    | false => exact ⟨hits, made, hle, hmade, by simp [hh', Attempt.hits, ht], by simp [he', ht]⟩
    | true =>
      refine ⟨hits + (if a.hits id then 1 else 0), made + 1, ?_, by simpa using hmade, ?_, ?_⟩
      · split <;> omega
      · rw [hh', UInt64.ofNat_add]
        split <;> rfl
      · rw [he', ht, if_pos rfl, UInt64.ofNat_add]
        rfl
  | false =>
    have hs := stats_record_of_not_fits hfits id
    cases ht : a.tries id with
    | false =>
      have hid : id ≠ a.ruleId := fun e => by simp [Attempt.tries, e] at ht
      rw [if_neg hid] at hs
      exact ⟨hits, made, hle, hmade, hs ▸ hh, hs ▸ he⟩
    | true =>
      have hid : id = a.ruleId := (of_decide_eq_true ht).symm
      rw [if_pos hid] at hs
      refine ⟨hits, made + 1, by omega, by simpa using hmade, by rw [hs, hh], ?_⟩
      rw [hs, he, UInt64.ofNat_add]
      rfl

theorem AtMost.recordAll (as : List Attempt) : ∀ {t : Telemetry} {id : String} {k : Nat}, t.AtMost id k →
    (t.recordAll as).AtMost id (k + as.countP (·.tries id)) := by
  induction as with
  | nil => exact fun h => h
  | cons a as ih =>
    intro t id k h
    have ha := h.record a
    have hcount : (a :: as).countP (·.tries id) = [a].countP (·.tries id) + as.countP (·.tries id) := by
      rw [← List.singleton_append, List.countP_append]
    rw [hcount, ← Nat.add_assoc, Telemetry.recordAll]
    split
    · exact ih ha
    · exact ha.mono (Nat.le_add_right ..)

/-- As long as the number of trials is told by its 64 bits, no more of them triggered than were made. -/
theorem AtMost.hits_le {t : Telemetry} {id : String} {k : Nat} (h : t.AtMost id k) (hk : k < UInt64.size) :
    (t.stats id).hits ≤ (t.stats id).evaluations := by
  obtain ⟨hits, made, hle, hmade, hh, he⟩ := h
  rw [hh, he, UInt64.le_iff_toNat_le, UInt64.toNat_ofNat_of_lt' (by omega), UInt64.toNat_ofNat_of_lt' (by omega)]
  exact hle

end Telemetry

end FraudScreen.Rules
