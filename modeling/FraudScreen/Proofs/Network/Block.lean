import Mathlib.Data.List.Forall2
import FraudScreen.Proofs.Network.Address
import FraudScreen.Proofs.Regex.Whole

/-!
# The expression of a block

The expression of a block asks for four octets with points between them, each of which is either fixed or any
one to three digits (`Slot`). It is never too large (`Block.parse_source`), and it matches a written address iff
that has the fixed octets (`Block.isMatch_iff`). From eight bits on every address of a block has them, and for 8, 16
and 24 bits no other has: `Block.expression_exact`.
-/
namespace FraudScreen.Network

open IPv4 (octetText)
open Regex (Piece SpansAll spelled? whole)
open Regex.Property (decimalNumber)

/-! ## Digits -/

theorem setBytes_decimalNumber : Regex.Footprint.setBytes decimalNumber = 10628 := by
  have hb : decimalNumber.bounds.size = 142 := by decide +kernel
  have hq : (Text.Utf8.sequences decimalNumber).length = 71 ∧
      (Text.Utf8.sequences decimalNumber).flatten.length = 242 := by decide +kernel
  rw [Regex.Footprint.setBytes, hb, hq.1, hq.2]

/-- The digits of all scripts include those in which octets are written, and the point is none of them. -/
theorem contains_of_isDigit {c : Char} (h : c.isDigit) : decimalNumber.contains c.toNat := by
  have hall : ∀ n < 58, 48 ≤ n → decimalNumber.contains n := by decide +kernel
  obtain ⟨hlo, hhi⟩ := toNat_of_isDigit h
  exact hall c.toNat (Nat.lt_succ_of_le hhi) hlo

theorem point_not_digit : decimalNumber.contains ('.' : Char).toNat = false := by decide +kernel

theorem not_mem_syntaxCharacters_of_isDigit {c : Char} (h : c.isDigit) : c ∉ Regex.syntaxCharacters := fun hs => by
  have hno : Regex.syntaxCharacters.all fun c => !c.isDigit := by decide
  simpa [h] using List.all_eq_true.1 hno c hs

/-! ## Octets asked for -/

/-- What the expression of a block asks for in place of an octet. -/
inductive Slot where
  | octet (n : UInt8)
  | digits

namespace Slot

/-- The expression reads so. -/
def source : Slot → List Char
  | octet n => octetText n
  | digits => ['\\', 'd', '\x7b', '1', ',', '3', '\x7d']

/-- A digit that stands for itself. -/
def digitPiece (c : Char) (h : c.isDigit) : Piece 32116 :=
  (Piece.ordinary c (not_mem_syntaxCharacters_of_isDigit h)).mono (by decide)

/-- One to three digits of any script. No other piece adds as much to a machine, 32116 bytes. -/
def digitsPiece : Piece 32116 :=
  (Piece.repeatedSet Regex.readsAs_digit Regex.repeats_counts (by decide) (by decide)).mono
    (by rw [setBytes_decimalNumber]; decide)

theorem regex_digitsPiece : digitsPiece.regex = .many (.set decimalNumber) 1 (some 3) true :=
  Regex.repeated_set _ (by decide) (by decide) _

/-- The pieces of the expression. -/
def pieces : Slot → List (Piece 32116)
  | octet n => (octetText n).pmap digitPiece fun _ => isDigit_of_mem_octetText
  | digits => [digitsPiece]

/-- The text stands for what is asked for. -/
def Admits : Slot → List Char → Prop
  | octet n, cs => cs = octetText n
  | digits, cs => (∀ c ∈ cs, decimalNumber.contains c.toNat) ∧ 1 ≤ cs.length ∧ cs.length ≤ 3

theorem source_pieces : ∀ s : Slot, s.pieces.flatMap (·.source) = s.source
  | octet n => by
    rw [pieces, List.flatMap_def, List.map_pmap]
    simp only [digitPiece, Piece.mono, Piece.ordinary, List.pmap_eq_map]
    rw [← List.flatMap_def, List.flatMap_singleton']
    rfl
  | digits => List.append_nil _

theorem length_pieces_le : ∀ s : Slot, s.pieces.length ≤ 3
  | octet n => by
    rw [pieces, List.length_pmap]
    exact (octetText_spec n).2.1
  | digits => Nat.le_of_ble_eq_true rfl

/-- The pieces match what is asked for. -/
theorem spansAll_pieces {t : List Char} : ∀ {s : Slot} {u v : List Char},
    SpansAll t (s.pieces.map (·.regex)) u v ↔ ∃ cs, s.Admits cs ∧ u = cs ++ v
  | octet n, u, v => by
    have hpieces : (pieces (octet n)).map (·.regex) = (octetText n).map fun c => .text [c] := by
      rw [pieces, List.map_pmap]
      exact List.pmap_eq_map ..
    rw [hpieces, Regex.spansAll_characters]
    simp [Admits]
  | digits, u, v => by
    have hset : (Regex.set decimalNumber).characters? = some decimalNumber := rfl
    rw [pieces, List.map_singleton, Regex.spansAll_singleton, regex_digitsPiece, Regex.spans_many hset]
    simp [Admits, and_assoc]

theorem Admits.point_not_mem : ∀ {s : Slot} {cs : List Char}, s.Admits cs → '.' ∉ cs
  | octet n, _, h => h ▸ point_not_mem_octetText n
  | digits, _, h => fun hm => by
    have hd := h.1 _ hm
    rw [point_not_digit] at hd
    cases hd

theorem admits_octet {n m : UInt8} : (octet n).Admits (octetText m) ↔ m = n :=
  ⟨octetText_injective, fun h => congrArg octetText h⟩

theorem admits_digits (m : UInt8) : digits.Admits (octetText m) :=
  ⟨fun _ hc => contains_of_isDigit (isDigit_of_mem_octetText hc), (octetText_spec m).1, (octetText_spec m).2.1⟩

/-! ## Points between them -/

/-- The pieces of several slots, with points between them. -/
def dotted (ss : List Slot) : List (Piece 32116) :=
  [(Piece.escaped '.' (by decide)).mono (by decide)].intercalate (ss.map pieces)

theorem dotted_cons_cons (s s' : Slot) (ss : List Slot) :
    dotted (s :: s' :: ss) = s.pieces ++ (Piece.escaped '.' (by decide)).mono (by decide) :: dotted (s' :: ss) := by
  rw [dotted, List.map_cons, List.map_cons, List.intercalate_cons_cons, List.append_assoc]
  rfl

theorem dotted_singleton (s : Slot) : dotted [s] = s.pieces := List.intercalate_singleton

theorem source_dotted : ∀ ss : List Slot, (dotted ss).flatMap (·.source) = ['\\', '.'].intercalate (ss.map source)
  | [] => rfl
  | [s] => by rw [dotted_singleton, source_pieces, List.map_singleton, List.intercalate_singleton]
  | s :: s' :: ss => by
    have ih := source_dotted (s' :: ss)
    rw [dotted_cons_cons, List.flatMap_append, List.flatMap_cons, source_pieces, ih]
    simp only [List.map_cons, List.intercalate_cons_cons, List.append_assoc]
    rfl

theorem length_dotted_le : ∀ ss : List Slot, (dotted ss).length ≤ 4 * ss.length
  | [] => Nat.le_refl 0
  | [s] => by
    have hs := length_pieces_le s
    rw [dotted_singleton, List.length_singleton]
    omega
  | s :: s' :: ss => by
    have hs := length_pieces_le s
    have ih := length_dotted_le (s' :: ss)
    rw [dotted_cons_cons, List.length_append, List.length_cons]
    simp only [List.length_cons] at ih ⊢
    omega

/-- Slots with points between them match texts with points between them, one by one. -/
theorem spansAll_dotted {t : List Char} : ∀ {ss : List Slot} {css : List (List Char)}, ss ≠ [] →
    ss.length = css.length → (∀ cs ∈ css, '.' ∉ cs) →
      (SpansAll t ((dotted ss).map (·.regex)) (['.'].intercalate css) [] ↔ List.Forall₂ Admits ss css)
  | [s], [cs], _, _, _ => by
    rw [dotted_singleton, List.intercalate_singleton, spansAll_pieces, List.forall₂_cons]
    simp
  | s :: s' :: ss, cs :: cs' :: css, _, hlen, hcs => by
    have hcs := List.forall_mem_cons.1 hcs
    have ih := @spansAll_dotted t (s' :: ss) (cs' :: css) (List.cons_ne_nil _ _) (Nat.succ.inj hlen) hcs.2
    have htext : ['.'].intercalate (cs :: cs' :: css) = cs ++ '.' :: ['.'].intercalate (cs' :: css) := by
      rw [List.intercalate_cons_cons, List.append_assoc]
      rfl
    rw [dotted_cons_cons, htext, List.map_append, List.map_cons, Regex.spansAll_append, List.forall₂_cons, ← ih]
    constructor
    · rintro ⟨_, hs, w, rfl, hw⟩
      obtain ⟨ds, hd, he⟩ := spansAll_pieces.1 hs
      -- neither text has a point in it, so both end at the first point
      obtain ⟨rfl, rfl⟩ := (append_point_inj hcs.1 hd.point_not_mem).1 he
      exact ⟨hd, hw⟩
    · rintro ⟨hs, hw⟩
      exact ⟨_, spansAll_pieces.2 ⟨cs, hs, rfl⟩, _, rfl, hw⟩

/-- Octets have what is asked for if the first of them are the fixed ones. -/
theorem forall₂_admits_iff : ∀ {fixed ns : List UInt8} {k : Nat}, ns.length = fixed.length + k →
    (List.Forall₂ Admits (fixed.map octet ++ List.replicate k digits) (ns.map octetText) ↔
      ns.take fixed.length = fixed)
  | [], [], 0, _ => by simp
  | [], n :: ns, k + 1, h => by
    have ih := @forall₂_admits_iff [] ns k (by simpa using h)
    simp only [List.map_nil, List.nil_append, List.length_nil, List.take_zero, iff_true] at ih
    simp [List.replicate_succ, admits_digits, ih]
  | m :: fixed, [], k, h => by simp only [List.length_nil, List.length_cons] at h; omega
  | m :: fixed, n :: ns, k, h => by
    have ih := @forall₂_admits_iff fixed ns k (by simp only [List.length_cons] at h; omega)
    simp only [List.map_cons, List.cons_append, List.forall₂_cons, admits_octet, ih, List.length_cons,
      List.take_succ_cons, List.cons.injEq]

end Slot

/-! ## The expression -/

namespace Block

variable (b : Block)

/-- What the expression of the block asks for. -/
def slots : List Slot :=
  (b.address.octets.take b.fixedOctets).map .octet ++ List.replicate (4 - b.fixedOctets) .digits

theorem fixedOctets_cases : b.fixedOctets = 1 ∨ b.fixedOctets = 2 ∨ b.fixedOctets = 3 := by
  unfold fixedOctets
  split
  · exact .inr (.inr rfl)
  · split
    · exact .inr (.inl rfl)
    · exact .inl rfl

theorem wholeSource_dotted : Regex.wholeSource (Slot.dotted b.slots) = b.source := by
  have hother : "\\.\\d\x7b1,3\x7d".toList = ['\\', '.'] ++ Slot.digits.source := by decide
  rw [Regex.wholeSource, Slot.source_dotted, source, hother]
  rcases b.fixedOctets_cases with h | h | h
  all_goals
    simp only [slots, h, IPv4.octets, List.take_succ_cons, List.take_zero, List.map_cons, List.map_nil, List.replicate,
      List.cons_append, List.nil_append, List.intercalate_cons_cons, List.intercalate_singleton, Slot.source,
      List.flatten_cons, List.flatten_nil, List.append_assoc, List.append_nil]

theorem length_slots : b.slots.length = 4 := by
  rcases b.fixedOctets_cases with h | h | h <;> simp [slots, h, IPv4.octets]

theorem spelled?_source : spelled? b.source = some (whole ((Slot.dotted b.slots).map (·.regex))) := by
  rw [← wholeSource_dotted, Regex.spelled?_wholeSource]

/-- The machine for a block is never too large. -/
theorem fits_whole : (whole ((Slot.dotted b.slots).map (·.regex))).fits := by
  have hm : Regex.Footprint.mostBytes = 10485760 := rfl
  have hlen := Slot.length_dotted_le b.slots
  rw [length_slots] at hlen
  refine Regex.fits_whole (Slot.dotted b.slots) (by decide) ?_
  rw [hm]
  omega

theorem parse_source : Regex.parse b.source = some (whole ((Slot.dotted b.slots).map (·.regex))) := by
  rw [Regex.parse_eq, spelled?_source, Option.filter_some, if_pos b.fits_whole]

theorem isMatch_iff (x : IPv4) : (whole ((Slot.dotted b.slots).map (·.regex))).isMatch x.text.toArray ↔
    x.octets.take b.fixedOctets = b.address.octets.take b.fixedOctets := by
  have hne : b.slots ≠ [] := List.ne_nil_of_length_pos (by rw [length_slots]; decide)
  have hlen : b.slots.length = (x.octets.map octetText).length := b.length_slots
  have hpoint : ∀ cs ∈ x.octets.map octetText, '.' ∉ cs := List.forall_mem_map.2 fun n _ => point_not_mem_octetText n
  rw [Regex.isMatch, Option.isSome_iff_exists]
  simp only [Regex.find?_whole_pieces, exists_eq_left]
  have hfixed : (b.address.octets.take b.fixedOctets).length = b.fixedOctets := by
    rcases b.fixedOctets_cases with h | h | h <;> rw [h] <;> rfl
  have hcount : x.octets.length = (b.address.octets.take b.fixedOctets).length + (4 - b.fixedOctets) := by
    rcases b.fixedOctets_cases with h | h | h <;> rw [h] <;> rfl
  rw [IPv4.text, Slot.spansAll_dotted hne hlen hpoint, slots, Slot.forall₂_admits_iff hcount, hfixed]

/-! ## Addresses in the block -/

/-- From eight bits on, no more octets are fixed than the addresses of the block share. -/
theorem fixedOctets_le (h : 8 ≤ b.length) : 8 * b.fixedOctets ≤ b.length := by
  unfold fixedOctets
  split
  · omega
  · split <;> omega

/-- The addresses of a block share its fixed octets. -/
theorem take_octets_of_contains {b : Block} (h : 8 ≤ b.length) {x : IPv4} (hx : b.contains x) :
    x.octets.take b.fixedOctets = b.address.octets.take b.fixedOctets := by
  have hfixed := b.fixedOctets_le h
  have hle := b.length_le
  have hshift : 32 - 8 * b.fixedOctets = (32 - b.length) + (b.length - 8 * b.fixedOctets) := by omega
  have hx : x.toNat >>> (32 - b.length) = b.address.toNat >>> (32 - b.length) := by simpa [contains] using hx
  rw [IPv4.take_octets_eq_iff x b.address (by omega), hshift, Nat.shiftRight_add, hx, ← Nat.shiftRight_add]

/-- An address that has the fixed octets of a block of whole octets lies in the block. -/
theorem contains_of_take_octets {b : Block} (h : b.length = 8 * b.fixedOctets) {x : IPv4}
    (hx : x.octets.take b.fixedOctets = b.address.octets.take b.fixedOctets) : b.contains x := by
  have hle := b.length_le
  rw [IPv4.take_octets_eq_iff x b.address (by omega), ← h] at hx
  simpa [contains] using hx

/-- **The expression of a block matches the written form of an address iff the address has the first octets of the
block**: three of them from 24 bits on, two from 16 bits on and one below. From eight bits on it misses no address of
the block, and for 8, 16 and 24 bits it matches no other. -/
theorem expression_exact (a : IPv4) {n : Nat} (hn : n ≤ 32) :
    ∃ b r, read? (a.text ++ '/' :: Nat.toDigits 10 n) = .ok b ∧ b.address = a ∧ b.length = n ∧
      Regex.parse b.source = some r ∧ ∀ x : IPv4,
        (r.isMatch x.text.toArray ↔
          let k := if 24 ≤ n then 3 else if 16 ≤ n then 2 else 1
          x.octets.take k = a.octets.take k) ∧
        (8 ≤ n → b.contains x → r.isMatch x.text.toArray) ∧
        (n = 8 ∨ n = 16 ∨ n = 24 → r.isMatch x.text.toArray → b.contains x) := by
  let b : Block := ⟨a, n, hn⟩
  refine ⟨b, _, b.read?_written, rfl, rfl, b.parse_source, fun x => ⟨b.isMatch_iff x, fun h hx => ?_, fun h hx => ?_⟩⟩
  · exact (b.isMatch_iff x).2 (take_octets_of_contains h hx)
  · refine contains_of_take_octets ?_ ((b.isMatch_iff x).1 hx)
    rcases h with rfl | rfl | rfl <;> rfl

/-- A block of a length between two octets, with an address of two digits in one octet and three in another. -/
theorem expression_exact_ten :
    let a : IPv4 := ⟨10, 200, 7, 0⟩
    20 ≤ 32 ∧ ∃ b r, read? (a.text ++ '/' :: Nat.toDigits 10 20) = .ok b ∧ b.address = a ∧ b.length = 20 ∧
      Regex.parse b.source = some r ∧ ∀ x : IPv4,
        (r.isMatch x.text.toArray ↔ x.octets.take 2 = [10, 200]) ∧ (b.contains x → r.isMatch x.text.toArray) := by
  obtain ⟨b, r, hb, ha, hn, hr, h⟩ := expression_exact ⟨10, 200, 7, 0⟩ (n := 20) (by decide)
  exact ⟨by decide, b, r, hb, ha, hn, hr, fun x => ⟨(h x).1, (h x).2.1 (by decide)⟩⟩

end Block

end FraudScreen.Network
