import FraudScreen.Regex.Parser

/-!
# How large machines can be

Bounds on the machine for an expression that follow from its parts. While a set is laid out, states are open to
which ways out are still added; what they will cost is kept in account (`bytes_settle`), so a set costs no more
than the intervals of its sequences do. `LaysWithin r n` says that `r` adds `n` bytes at most, whatever was laid
out before it, and an expression that does so within the limit is not refused: `fits_of_laysWithin`.
-/
namespace FraudScreen.Regex

open Text (CodeSet)
open Text.Utf8 (Sequence)

namespace Footprint

@[simp] theorem bytes_add (f : Footprint) (states ways : Nat) :
    (f.add states ways).bytes = f.bytes + (32 * states + ways) := by
  simp only [bytes, add]
  omega

/-! ## Sets -/

/-- What an open state costs once it is placed: a state, and a way for each of its intervals. -/
def OpenState.cost (s : OpenState) : Nat := 32 + 8 * (s.ways.length + s.last.toList.length)

/-- What some open states cost once they are placed. -/
def openCost : List OpenState → Nat
  | [] => 0
  | s :: rest => s.cost + openCost rest

theorem length_close (s : OpenState) (next : Nat) :
    (s.close next).length = s.ways.length + s.last.toList.length := by
  unfold OpenState.close
  split <;> simp [*]

theorem bytes_place_le (ways : Ways) (l : Layout Ways) :
    (place ways l).2.footprint.bytes ≤ l.footprint.bytes + (32 + 8 * ways.length) := by
  unfold place
  dsimp only
  split
  · exact Nat.le_add_right ..
  · simp [reading]

/-- Placing open states turns what they were to cost into bytes of the machine. -/
theorem bytes_settle_le (kept : Nat) : ∀ (stack : List OpenState) (next : Nat) (l : Layout Ways),
    (settle kept next stack l).2.footprint.bytes + openCost (settle kept next stack l).1 ≤
      l.footprint.bytes + openCost stack
  | [], _, _ => Nat.le_refl _
  | top :: below, next, l => by
    have hclose := length_close top next
    rw [settle]
    split
    · simp only [openCost, OpenState.cost, hclose, Option.toList_none, List.length_nil]
      omega
    · -- the highest state is placed, which turns all that it was to cost into bytes
      have hplace := bytes_place_le (top.close next) l
      have ih := bytes_settle_le kept below (place (top.close next) l).1 (place (top.close next) l).2
      simp only [openCost, OpenState.cost]
      omega

theorem openCost_foldl : ∀ (q : Sequence) (stack : List OpenState),
    openCost (q.foldl (fun stack r => ⟨[], some r⟩ :: stack) stack) = openCost stack + 40 * q.length
  | [], _ => rfl
  | r :: q, stack => by
    rw [List.foldl_cons, openCost_foldl q, List.length_cons]
    simp only [openCost, OpenState.cost, List.length_nil, Option.toList_some, List.length_singleton]
    omega

theorem openCost_extend_le (q : Sequence) : ∀ stack : List OpenState,
    openCost (extend q stack) ≤ openCost stack + 40 * q.length
  | [] => Nat.zero_le _
  | top :: below => by
    cases q with
    | nil => exact Nat.le_refl _
    | cons r q =>
      rw [extend, openCost_foldl]
      simp only [openCost, OpenState.cost, Option.toList_some, List.length_cons, List.length_nil]
      omega

theorem bytes_addSequences_le (target : Nat) : ∀ (qs : List Sequence) (stack : List OpenState) (l : Layout Ways),
    (addSequences target qs stack l).2.footprint.bytes + openCost (addSequences target qs stack l).1 ≤
      l.footprint.bytes + openCost stack + 40 * qs.flatten.length
  | [], _, _ => Nat.le_add_right ..
  | q :: qs, stack, l => by
    have hsettle := bytes_settle_le (sharedStart q stack.reverse + 1) stack target l
    have hextend := openCost_extend_le (q.drop (sharedStart q stack.reverse))
      (settle (sharedStart q stack.reverse + 1) target stack l).1
    have ih := bytes_addSequences_le target qs
      (extend (q.drop (sharedStart q stack.reverse)) (settle (sharedStart q stack.reverse + 1) target stack l).1)
      (settle (sharedStart q stack.reverse + 1) target stack l).2
    rw [List.length_drop] at hextend
    rw [addSequences, List.flatten_cons, List.length_append]
    dsimp only
    omega

theorem bytes_addForwards_le (qs : List Sequence) (f : Footprint) :
    (addForwards qs f).bytes ≤ f.bytes + (96 + 40 * qs.flatten.length) := by
  have hadd := bytes_addSequences_le f.states qs [⟨[], none⟩] ⟨f.add 1 0, ⟨{}⟩⟩
  unfold addForwards
  dsimp only
  generalize addSequences f.states qs [⟨[], none⟩] ⟨f.add 1 0, ⟨{}⟩⟩ = added at hadd ⊢
  have hsettle := bytes_settle_le 1 added.1 f.states added.2
  generalize settle 1 f.states added.1 added.2 = settled at hsettle ⊢
  have hplace := bytes_place_le ((settled.1.head?.map (·.ways)).getD []) settled.2
  -- only the root is still open, and its ways are placed last
  have hhead : 8 * ((settled.1.head?.map (·.ways)).getD []).length ≤ openCost settled.1 := by
    cases settled.1 with
    | nil => exact Nat.zero_le _
    | cons s rest =>
      simp only [List.head?_cons, Option.map_some, Option.getD_some, openCost, OpenState.cost]
      omega
  simp only [bytes_add, openCost, OpenState.cost, List.length_nil, Option.toList_none] at hadd
  omega

theorem bytes_addReversed_le : ∀ (q : Sequence) (next : Nat) (l : Layout (Nat × Nat × Nat)),
    (addReversed next q l).footprint.bytes ≤ l.footprint.bytes + 32 * q.length
  | [], _, _ => Nat.le_refl _
  | (lo, hi) :: q, next, l => by
    rw [addReversed, List.length_cons]
    dsimp only
    split
    · rename_i state _
      have ih := bytes_addReversed_le q state l
      omega
    · have ih := bytes_addReversed_le q l.footprint.states
        ⟨l.footprint.add 1 0, l.memory.set (slot 1000 [next, lo, hi]) (next, lo, hi) l.footprint.states⟩
      rw [bytes_add] at ih
      omega

theorem bytes_addBackwards_le (qs : List Sequence) (f : Footprint) :
    (addBackwards qs f).bytes ≤ f.bytes + (96 + 4 * qs.length + 40 * qs.flatten.length) := by
  have hfold : ∀ (qs : List Sequence) (target : Nat) (l : Layout (Nat × Nat × Nat)),
      (qs.foldl (fun l q => addReversed target q { l with footprint := l.footprint.add 0 jump }) l).footprint.bytes ≤
        l.footprint.bytes + (4 * qs.length + 32 * qs.flatten.length) := by
    intro qs target
    induction qs with
    | nil => exact fun _ => Nat.le_refl _
    | cons q qs ih =>
      intro l
      have hq := bytes_addReversed_le q target { l with footprint := l.footprint.add 0 jump }
      have hqs := ih (addReversed target q { l with footprint := l.footprint.add 0 jump })
      have hjump : jump = 4 := rfl
      rw [bytes_add] at hq
      rw [List.foldl_cons, List.length_cons, List.flatten_cons, List.length_append]
      omega
  have h := hfold qs (f.states + 1) ⟨f.add 2 0, ⟨{}⟩⟩
  rw [bytes_add] at h
  unfold addBackwards
  dsimp only
  omega

/-- Bytes that are enough for a set, in either direction. -/
def setBytes (s : CodeSet) : Nat :=
  let qs := Text.Utf8.sequences s
  96 + 4 * s.bounds.size + 4 * qs.length + 40 * qs.flatten.length

theorem bytes_addSet_le (d : Direction) (s : CodeSet) (f : Footprint) :
    (addSet d s f).bytes ≤ f.bytes + setBytes s := by
  unfold addSet setBytes
  dsimp only
  split
  · rw [bytes_add, reading]
    omega
  · cases d with
    | forwards =>
      have := bytes_addForwards_le (Text.Utf8.sequences s) f
      dsimp only
      omega
    | backwards =>
      have := bytes_addBackwards_le (Text.Utf8.sequences s) f
      dsimp only
      omega

/-! ## Repetitions -/

theorem bytes_repeatedly_le {one : Footprint → Footprint} {k : Nat} (h : ∀ f, (one f).bytes ≤ f.bytes + k) :
    ∀ (n : Nat) (f : Footprint), (repeatedly one n f).bytes ≤ f.bytes + n * k
  | 0, _ => Nat.le_add_right ..
  | n + 1, f => by
    rw [repeatedly]
    split
    · exact Nat.le_add_right ..
    · have ih := bytes_repeatedly_le h n (one f)
      have hf := h f
      rw [Nat.succ_mul]
      omega

end Footprint

open Footprint

theorem lay_text (d : Direction) (cs : List Char) (f : Footprint) :
    lay d (.text cs) 0 f = f.add (Text.byteLength cs) 0 := rfl

theorem lay_seq_forwards (a b : Regex) (f : Footprint) :
    lay .forwards (.seq a b) 0 f = lay .forwards b 0 (lay .forwards a 0 f) := rfl

theorem lay_seq_backwards (a b : Regex) (f : Footprint) :
    lay .backwards (.seq a b) 0 f = lay .backwards a 0 (lay .backwards b 0 f) := rfl

/-- The expression adds `n` bytes at most to a machine, in either direction. -/
def LaysWithin (r : Regex) (n : Nat) : Prop := ∀ (d : Direction) (f : Footprint), (lay d r 0 f).bytes ≤ f.bytes + n

namespace LaysWithin

variable {r : Regex} {n : Nat}

theorem mono {m : Nat} (h : LaysWithin r n) (hm : n ≤ m) : LaysWithin r m := fun d f =>
  Nat.le_trans (h d f) (Nat.add_le_add_left hm _)

theorem text (cs : List Char) : LaysWithin (.text cs) (32 * Text.byteLength cs) := fun _ f =>
  Nat.le_of_eq (bytes_add f _ 0)

theorem look (l : Look) : LaysWithin (.look l) 32 := fun _ f => Nat.le_of_eq (bytes_add f 1 0)

theorem set (s : CodeSet) : LaysWithin (.set s) (setBytes s) := fun d f => bytes_addSet_le d s f

theorem seq {a b : Regex} {m : Nat} (ha : LaysWithin a m) (hb : LaysWithin b n) :
    LaysWithin (.seq a b) (m + n) := fun d f => by
  cases d with
  | forwards =>
    have h1 := ha .forwards f
    have h2 := hb .forwards (lay .forwards a 0 f)
    rw [lay_seq_forwards]
    omega
  | backwards =>
    have h1 := hb .backwards f
    have h2 := ha .backwards (lay .backwards b 0 f)
    rw [lay_seq_backwards]
    omega

/-- What is repeated is laid out as it is by itself. -/
theorem lay_many (d : Direction) (r : Regex) (least : Nat) (most : Option Nat) (greedy : Bool) (f : Footprint) :
    lay d (.many r least most greedy) 0 f =
      match least, most with
      | 0, some 1 => (lay d r 0 (f.add 1 (2 * jump))).add 1 0
      | 0, none => if r.isNullable then (lay d r 0 f).add 3 (4 * jump) else lay d r 0 (f.add 1 (2 * jump))
      | least, none => (repeatedly (lay d r 0) least f).add 1 (2 * jump)
      | least, some most =>
        if least = most then repeatedly (lay d r 0) least f
        else
          let needed := if least = 0 then f.add 1 0 else repeatedly (lay d r 0) least f
          repeatedly (fun f => lay d r 0 (f.add 1 (2 * jump))) (most - least) (needed.add 1 0) := by
  rw [lay.eq_def]
  cases r <;> rfl

theorem many (h : LaysWithin r n) (least : Nat) (most : Option Nat) (greedy : Bool) :
    LaysWithin (.many r least most greedy) (max least (most.getD 1) * (n + 40) + 112) := fun d f => by
  have hjump : jump = 4 := rfl
  have hstep : ∀ f : Footprint, (lay d r 0 (f.add 1 (2 * jump))).bytes ≤ f.bytes + (n + 40) := fun f => by
    have := h d (f.add 1 (2 * jump))
    rw [bytes_add] at this
    omega
  rw [lay_many]
  split
  · have := hstep f
    simp only [bytes_add, Option.getD_some, Nat.zero_max, Nat.one_mul]
    omega
  · simp only [Option.getD_none, Nat.zero_max, Nat.one_mul]
    split
    · have := h d f
      rw [bytes_add]
      omega
    · have := hstep f
      omega
  · have := bytes_repeatedly_le (h d) least f
    have hle : least * n ≤ max least 1 * (n + 40) := Nat.mul_le_mul (Nat.le_max_left ..) (Nat.le_add_right ..)
    rw [bytes_add, Option.getD_none]
    omega
  · rename_i most _
    have hneeded := bytes_repeatedly_le (h d) least f
    have hle : least * n ≤ least * (n + 40) := Nat.mul_le_mul_left _ (Nat.le_add_right ..)
    have hmax : max least most * (n + 40) = least * (n + 40) + (most - least) * (n + 40) := by
      rw [← Nat.add_mul]
      exact congrArg (· * (n + 40)) (by omega)
    rw [Option.getD_some, hmax]
    split
    · omega
    · -- the copies that are asked for, a state for the end, and the copies that may be left out
      generalize hneed : (if least = 0 then f.add 1 0 else repeatedly (lay d r 0) least f) = needed
      have hle' : needed.bytes ≤ f.bytes + (least * (n + 40) + 32) := by
        rw [← hneed]
        split
        · rw [bytes_add]
          omega
        · omega
      have hrest := bytes_repeatedly_le hstep (most - least) (needed.add 1 0)
      rw [bytes_add] at hrest
      dsimp only
      omega

/-! ## Sequences -/

theorem joinFront {rs : List Regex} {m : Nat} (hr : LaysWithin r m) (hrs : LaysWithin (ofFactors rs) n) :
    LaysWithin (ofFactors (joinFront r rs)) (m + n) := by
  unfold Regex.joinFront
  split
  · rename_i cs ds more
    -- a text adds the bytes of both that it is made of
    have hcs := hr .forwards ⟨0, 0⟩
    rw [lay_text, bytes_add] at hcs
    have hsplit : ∀ f : Footprint, f.add (Text.byteLength (cs ++ ds)) 0 =
        (f.add (Text.byteLength cs) 0).add (Text.byteLength ds) 0 := fun f => by
      simp only [Footprint.add, Text.byteLength_append, Nat.add_assoc, Nat.add_zero]
    intro d f
    have h := hrs d (f.add (Text.byteLength cs) 0)
    have h' := hrs d f
    rw [bytes_add] at h
    cases more with
    | nil =>
      simp only [ofFactors, lay_text, hsplit] at h ⊢
      omega
    | cons s more =>
      cases d with
      | forwards =>
        simp only [ofFactors, lay_seq_forwards, lay_text, hsplit] at h ⊢
        omega
      | backwards =>
        simp only [ofFactors, lay_seq_backwards, lay_text, hsplit, bytes_add] at h' ⊢
        omega
  · cases rs with
    | nil => exact hr.mono (Nat.le_add_right ..)
    | cons s rs => exact hr.seq hrs

/-- A sequence of parts that are none themselves. -/
theorem sequence {rs : List Regex} (hf : ∀ r ∈ rs, r.factors = [r]) (h : ∀ r ∈ rs, LaysWithin r n) :
    LaysWithin (sequence rs) (32 + n * rs.length) := by
  have hrs : rs.flatMap factors = rs := by
    rw [List.flatMap_def, List.map_congr_left hf, ← List.flatMap_def, List.flatMap_singleton']
  rw [Regex.sequence, hrs]
  clear hf hrs
  induction rs with
  | nil => exact fun _ f => Nat.le_of_eq (bytes_add f 1 0)
  | cons r rs ih =>
    have h := List.forall_mem_cons.1 h
    refine (h.1.joinFront (ih h.2)).mono ?_
    rw [List.length_cons, Nat.mul_succ]
    omega

end LaysWithin

theorem bytes_entrance_le (atEdge : Bool) : (entrance atEdge).bytes ≤ 112 := by
  cases atEdge <;> decide

/-- The limit allows for what comes before and after an expression. -/
theorem fits_of_laysWithin {r : Regex} {n : Nat} (h : LaysWithin r n) (hn : n + 208 ≤ Footprint.mostBytes) :
    r.fits := by
  have hf : (ofForwards r).bytes ≤ Footprint.mostBytes := by
    have := h .forwards ((entrance r.startsText).add 1 0)
    have := bytes_entrance_le r.startsText
    simp only [bytes_add] at *
    rw [ofForwards, bytes_add]
    omega
  have hb : (ofBackwards r).bytes ≤ Footprint.mostBytes := by
    have := h .backwards (entrance r.endsText)
    have := bytes_entrance_le r.endsText
    rw [ofBackwards, bytes_add]
    omega
  simp [fits, isTooLarge, Nat.not_lt.2 hf, Nat.not_lt.2 hb]

end FraudScreen.Regex
