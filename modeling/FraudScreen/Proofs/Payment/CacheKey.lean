import Mathlib
import FraudScreen.Proofs.Payment.Acceptance

/-!
# Cache keys

A cache key joins two ids and the number of a bucket by colons. The number has no colon, so a key gives back its
number and the joined ids (`cacheKey_eq_iff_joined`), but not always the ids: an id may itself hold a colon
(`Recut`). Buckets are counted outward from 1970, so the two next to it are one (`SameBucket`). Where neither matters
a key is as good as customer, merchant and five minutes: `cacheKey_eq_iff`.
-/
namespace FraudScreen.Payment

/-! ## Joined texts -/

section

variable {α : Type} {a : α} {xs ys xs' ys' : List α}

/-- Two texts cut at a separator are the same text. Then they are cut at the same place, or one is cut further to
the left. -/
theorem append_separator_eq_iff : xs ++ a :: ys = xs' ++ a :: ys' ↔
    (xs = xs' ∧ ys = ys') ∨ (∃ zs, xs' = xs ++ a :: zs ∧ ys = zs ++ a :: ys') ∨
      ∃ zs, xs = xs' ++ a :: zs ∧ ys' = zs ++ a :: ys := by
  constructor
  · intro h
    rcases List.append_eq_append_iff.1 h with ⟨zs, hx, hy⟩ | ⟨zs, hx, hy⟩
    · cases zs with
      | nil => simp_all
      | cons b zs =>
        obtain ⟨rfl, rfl⟩ := List.cons.inj hy
        exact .inr (.inl ⟨zs, hx, rfl⟩)
    · cases zs with
      | nil => simp_all
      | cons b zs =>
        obtain ⟨rfl, rfl⟩ := List.cons.inj hy
        exact .inr (.inr ⟨zs, hx, rfl⟩)
  · rintro (⟨rfl, rfl⟩ | ⟨zs, rfl, rfl⟩ | ⟨zs, rfl, rfl⟩) <;> simp

/-- There is one last separator. -/
theorem append_last_separator_inj (h : a ∉ ys) (h' : a ∉ ys') (he : xs ++ a :: ys = xs' ++ a :: ys') :
    xs = xs' ∧ ys = ys' := by
  rcases append_separator_eq_iff.1 he with he | ⟨zs, -, rfl⟩ | ⟨zs, -, rfl⟩
  · exact he
  · simp at h
  · simp at h'

end

/-- A whole number is written without colons. -/
theorem colon_not_mem_toString (n : Int) : ':' ∉ (toString n).toList := by
  have hdigits (m : Nat) : ':' ∉ m.repr.toList := by
    rw [Nat.toList_repr]
    intro h
    have hd := Nat.isDigit_of_mem_toDigits (by decide) (by decide) h
    exact absurd hd (by decide)
  rw [Int.toString_eq_repr]
  cases n with
  | ofNat m => exact hdigits m
  | negSucc m =>
    change ':' ∉ ("-" ++ (m + 1).repr).toList
    rw [String.toList_append, List.mem_append, not_or]
    exact ⟨by decide, hdigits (m + 1)⟩

/-! ## Time buckets -/

/-- Two moments of the same five minutes, counted from the start of 1970 forward or backward. The first five
minutes in either direction are one. -/
def SameBucket (t u : Calendar.Timestamp) : Prop :=
  (0 ≤ t.seconds ∧ 0 ≤ u.seconds ∧ t.seconds / 300 = u.seconds / 300) ∨
    (t.seconds ≤ 0 ∧ u.seconds ≤ 0 ∧ -t.seconds / 300 = -u.seconds / 300) ∨
    (t.seconds.natAbs < 300 ∧ u.seconds.natAbs < 300)

theorem timeBucket_of_nonneg {t : Calendar.Timestamp} (h : 0 ≤ t.seconds) : timeBucket t = t.seconds / 300 := by
  rw [timeBucket, bucketMinutes, Int.tdiv_eq_ediv_of_nonneg h, Int.tdiv_eq_ediv_of_nonneg (by omega)]
  omega

theorem timeBucket_of_nonpos {t : Calendar.Timestamp} (h : t.seconds ≤ 0) :
    timeBucket t = -(-t.seconds / 300) := by
  have hneg : t.seconds.tdiv 60 = -(-t.seconds / 60) := by
    rw [← Int.tdiv_eq_ediv_of_nonneg (by omega), Int.neg_tdiv, Int.neg_neg]
  rw [timeBucket, bucketMinutes, hneg, Int.neg_tdiv, Int.tdiv_eq_ediv_of_nonneg (by omega)]
  omega

theorem timeBucket_eq_iff {t u : Calendar.Timestamp} : timeBucket t = timeBucket u ↔ SameBucket t u := by
  unfold SameBucket
  rcases le_total 0 t.seconds with ht | ht <;> rcases le_total 0 u.seconds with hu | hu
  · rw [timeBucket_of_nonneg ht, timeBucket_of_nonneg hu]
    omega
  · rw [timeBucket_of_nonneg ht, timeBucket_of_nonpos hu]
    omega
  · rw [timeBucket_of_nonpos ht, timeBucket_of_nonneg hu]
    omega
  · rw [timeBucket_of_nonpos ht, timeBucket_of_nonpos hu]
    omega

/-! ## Keys -/

namespace Transaction

/-- Customer and merchant with the separator of keys between them. -/
def joinedIds (tx : Transaction) : List Char := tx.customer.id.toList ++ ':' :: tx.purchase.merchantId.toList

/-- The joined ids of `tx`, cut at a later colon: what follows the first colon of the second customer belongs to the
first merchant. -/
def Recut (tx tx' : Transaction) : Prop :=
  ∃ between, tx'.customer.id = tx.customer.id ++ ":" ++ between ∧
    tx.purchase.merchantId = between ++ ":" ++ tx'.purchase.merchantId

theorem toList_cacheKey (tx : Transaction) : tx.cacheKey.toList =
    "features:".toList ++ (tx.joinedIds ++ ':' :: (toString (timeBucket tx.timestamp)).toList) := by
  simp [cacheKey, joinedIds]

/-- A key gives back the joined ids and the bucket. -/
theorem cacheKey_eq_iff_joined {tx tx' : Transaction} : tx.cacheKey = tx'.cacheKey ↔
    tx.joinedIds = tx'.joinedIds ∧ SameBucket tx.timestamp tx'.timestamp := by
  rw [← timeBucket_eq_iff]
  constructor
  · intro h
    have hkeys := congrArg String.toList h
    rw [toList_cacheKey, toList_cacheKey] at hkeys
    obtain ⟨hids, hbucket⟩ := append_last_separator_inj (colon_not_mem_toString _) (colon_not_mem_toString _)
      (List.append_cancel_left hkeys)
    rw [String.toList_inj, Int.toString_eq_repr, Int.toString_eq_repr, Int.repr_inj] at hbucket
    exact ⟨hids, hbucket⟩
  · rintro ⟨hids, hbucket⟩
    rw [← String.toList_inj, toList_cacheKey, toList_cacheKey, hids, hbucket]

/-- Joined ids are equal if the ids are, or if a colon in an id can be taken for the separator. -/
theorem joinedIds_eq_iff {tx tx' : Transaction} : tx.joinedIds = tx'.joinedIds ↔
    (tx.customer.id = tx'.customer.id ∧ tx.purchase.merchantId = tx'.purchase.merchantId) ∨
      Recut tx tx' ∨ Recut tx' tx := by
  have hrecut (tx tx' : Transaction) : Recut tx tx' ↔
      ∃ zs, tx'.customer.id.toList = tx.customer.id.toList ++ ':' :: zs ∧
        tx.purchase.merchantId.toList = zs ++ ':' :: tx'.purchase.merchantId.toList := by
    constructor
    · rintro ⟨between, hc, hm⟩
      exact ⟨between.toList, by simp [hc], by simp [hm]⟩
    · rintro ⟨zs, hc, hm⟩
      refine ⟨String.ofList zs, ?_, ?_⟩ <;> rw [← String.toList_inj]
      · simp [hc]
      · simp [hm]
  rw [joinedIds, joinedIds, append_separator_eq_iff, String.toList_inj, String.toList_inj, hrecut, hrecut]

/-- A customer whose id goes on after a colon has a colon in it. -/
theorem Recut.colon_mem {tx tx' : Transaction} (h : Recut tx tx') : ':' ∈ tx'.customer.id.toList := by
  obtain ⟨between, hc, -⟩ := h
  simp [hc]

/-- **What a cache key tells apart.** Two keys are equal exactly for the same customer and merchant, or for ids that
are the same text cut at different colons, in the same five minutes counted outward from 1970. So without colons in
the ids of customers, and from 1970 on, they are equal exactly for the same customer, merchant and five minutes. -/
theorem cacheKey_eq_iff (tx tx' : Transaction) :
    (tx.cacheKey = tx'.cacheKey ↔
      ((tx.customer.id = tx'.customer.id ∧ tx.purchase.merchantId = tx'.purchase.merchantId) ∨
        Recut tx tx' ∨ Recut tx' tx) ∧ SameBucket tx.timestamp tx'.timestamp) ∧
    ((∀ t ∈ [tx, tx'], ':' ∉ t.customer.id.toList ∧ 0 ≤ t.timestamp.seconds) →
      (tx.cacheKey = tx'.cacheKey ↔ tx.customer.id = tx'.customer.id ∧
        tx.purchase.merchantId = tx'.purchase.merchantId ∧
        tx.timestamp.seconds / 300 = tx'.timestamp.seconds / 300)) := by
  have hexact : tx.cacheKey = tx'.cacheKey ↔ _ := cacheKey_eq_iff_joined.trans (and_congr_left' joinedIds_eq_iff)
  refine ⟨hexact, ?_⟩
  intro h
  obtain ⟨hcolon, htime⟩ := h tx (by simp)
  obtain ⟨hcolon', htime'⟩ := h tx' (by simp)
  have hcut : ¬Recut tx tx' := fun hr => hcolon' hr.colon_mem
  have hcut' : ¬Recut tx' tx := fun hr => hcolon hr.colon_mem
  rw [hexact, ← timeBucket_eq_iff, timeBucket_of_nonneg htime, timeBucket_of_nonneg htime']
  simp [hcut, hcut', and_assoc]

/-- The ordinary transaction at another moment, with other ids. -/
def ordinaryAt (seconds : Int) (customer merchant : String) : Transaction :=
  { ordinary with
    timestamp := ⟨seconds, 0⟩
    purchase := { ordinary.purchase with merchantId := merchant }
    customer := { ordinary.customer with id := customer } }

/-- The last second of five minutes has the key of the first, and the next second has not. -/
theorem cacheKey_eq_iff_fiveMinutes :
    (∀ t ∈ [ordinaryAt 300 "c" "m:n", ordinaryAt 599 "c" "m:n"],
      ':' ∉ t.customer.id.toList ∧ 0 ≤ t.timestamp.seconds) ∧
    (∀ t ∈ [ordinaryAt 300 "c" "m:n", ordinaryAt 600 "c" "m:n"],
      ':' ∉ t.customer.id.toList ∧ 0 ≤ t.timestamp.seconds) ∧
    (ordinaryAt 300 "c" "m:n").cacheKey = (ordinaryAt 599 "c" "m:n").cacheKey ∧
    (ordinaryAt 300 "c" "m:n").cacheKey ≠ (ordinaryAt 600 "c" "m:n").cacheKey := by
  have hsame : ∀ t ∈ [ordinaryAt 300 "c" "m:n", ordinaryAt 599 "c" "m:n"],
      ':' ∉ t.customer.id.toList ∧ 0 ≤ t.timestamp.seconds := by decide
  have hnext : ∀ t ∈ [ordinaryAt 300 "c" "m:n", ordinaryAt 600 "c" "m:n"],
      ':' ∉ t.customer.id.toList ∧ 0 ≤ t.timestamp.seconds := by decide
  refine ⟨hsame, hnext, ((cacheKey_eq_iff _ _).2 hsame).2 ⟨rfl, rfl, by decide⟩, ?_⟩
  intro h
  exact absurd (((cacheKey_eq_iff _ _).2 hnext).1 h).2.2 (by decide)

/-- Accepted transactions that differ in customer and merchant, or in their five minutes, may have one key: a colon
in an id moves the cut between the ids, and the last second of 1969 falls into the first bucket of 1970. -/
theorem cacheKey_collides :
    (∀ tx ∈ [ordinaryAt 0 "a:b" "c", ordinaryAt 0 "a" "b:c", ordinaryAt 0 "c" "m", ordinaryAt (-1) "c" "m"],
      tx.validate ordinary.timestamp = .ok ()) ∧
    (ordinaryAt 0 "a:b" "c").cacheKey = (ordinaryAt 0 "a" "b:c").cacheKey ∧ "a:b" ≠ "a" ∧
    (ordinaryAt 0 "c" "m").cacheKey = (ordinaryAt (-1) "c" "m").cacheKey ∧ (0 : Int) / 300 ≠ -1 / 300 := by
  refine ⟨?_, by decide, by decide, by decide, by decide⟩
  intro tx htx
  rw [validate_eq_ok_iff_violations, ← List.isEmpty_iff]
  revert tx
  decide +kernel

end Transaction

end FraudScreen.Payment
