import Mathlib.Data.List.TakeDrop
import FraudScreen.Network.Block

/-!
# Written addresses

What is written of an address or of a block reads back as that address or block: `IPv4.read?_text`,
`Block.read?_written`. Octets are written with digits only, so a point divides a written address where one octet ends
(`append_point_inj`), and the first octets of an address are the first bits of its number (`take_octets_eq_iff`).
-/
namespace FraudScreen.Network

open IPv4 (octetText)

/-! ## Octets -/

theorem toNat_of_isDigit {c : Char} (h : c.isDigit) : 48 ≤ c.toNat ∧ c.toNat ≤ 57 := by
  simpa [Char.isDigit, UInt32.le_iff_toNat_le] using h

theorem isDigit_of_mem_octetText {n : UInt8} {c : Char} (h : c ∈ octetText n) : c.isDigit :=
  Nat.isDigit_of_mem_toDigits (by decide) (by decide) h

/-- An octet is written with one to three digits, without leading zeros, and has their value. -/
theorem octetText_spec (n : UInt8) : 1 ≤ (octetText n).length ∧ (octetText n).length ≤ 3 ∧
    Decimal.digitsValue (octetText n) = n.toNat ∧ ((octetText n).head? = some '0' → octetText n = ['0']) := by
  have h : ∀ n < 256, 1 ≤ (Nat.toDigits 10 n).length ∧ (Nat.toDigits 10 n).length ≤ 3 ∧
      Decimal.digitsValue (Nat.toDigits 10 n) = n ∧
      ((Nat.toDigits 10 n).head? = some '0' → Nat.toDigits 10 n = ['0']) := by decide +kernel
  exact h n.toNat n.toNat_lt

theorem octetText_injective {n m : UInt8} (h : octetText n = octetText m) : n = m := by
  have hv := congrArg Decimal.digitsValue h
  rw [(octetText_spec n).2.2.1, (octetText_spec m).2.2.1] at hv
  exact UInt8.toNat_inj.1 hv

theorem point_not_mem_octetText (n : UInt8) : '.' ∉ octetText n := fun h =>
  absurd (isDigit_of_mem_octetText h) (by decide)

/-- Where the first point stands, what comes before it ends and what comes after it begins. -/
theorem append_point_inj {cs ds us vs : List Char} (hc : '.' ∉ cs) (hd : '.' ∉ ds) :
    cs ++ '.' :: us = ds ++ '.' :: vs ↔ cs = ds ∧ us = vs := by
  refine ⟨fun h => ?_, fun h => by rw [h.1, h.2]⟩
  have hbefore : ∀ {cs : List Char} (us : List Char), '.' ∉ cs → (cs ++ '.' :: us).takeWhile (· != '.') = cs := by
    intro cs us hc
    rw [List.takeWhile_append_of_pos fun c hm => by simpa using fun e : c = '.' => hc (e ▸ hm)]
    simp
  have he : cs = ds := by rw [← hbefore us hc, h, hbefore vs hd]
  rw [he] at h
  exact ⟨he, List.tail_eq_of_cons_eq (List.append_cancel_left h)⟩

theorem readOctet_append (n : UInt8) (rest : List Char) (h : ∀ c ∈ rest.head?, c.isDigit = false) :
    readOctet (octetText n ++ rest) = some (n, rest) := by
  obtain ⟨hleast, hmost, hvalue, hzero⟩ := octetText_spec n
  have hdigits : ∀ c ∈ octetText n, c.isDigit = true := fun _ => isDigit_of_mem_octetText
  have hrest : rest.takeWhile Char.isDigit = [] ∧ rest.dropWhile Char.isDigit = rest := by
    cases rest with
    | nil => exact ⟨rfl, rfl⟩
    | cons c cs =>
      have hc := h c rfl
      exact ⟨List.takeWhile_cons_of_neg (by simp [hc]), List.dropWhile_cons_of_neg (by simp [hc])⟩
  have hspan : (octetText n ++ rest).span Char.isDigit = (octetText n, rest) := by
    rw [List.span_eq_takeWhile_dropWhile, List.takeWhile_append_of_pos hdigits,
      List.dropWhile_append_of_pos hdigits, hrest.1, hrest.2, List.append_nil]
  have hempty : octetText n ≠ [] := List.ne_nil_of_length_pos hleast
  have hn := n.toNat_lt
  have hvalid : ¬ ((octetText n).isEmpty ∨ 3 < (octetText n).length ∨ 255 < n.toNat ∨
      ((octetText n).head? = some '0' ∧ octetText n ≠ ['0'])) := by
    rintro (h | h | h | ⟨h, h'⟩)
    · exact hempty (List.isEmpty_iff.1 h)
    · exact Nat.not_lt.2 hmost h
    · omega
    · exact h' (hzero h)
  simp only [readOctet, hspan, hvalue]
  rw [if_neg hvalid, UInt8.ofNat_toNat]

/-! ## Addresses -/

theorem IPv4.text_eq (x : IPv4) :
    x.text = octetText x.a ++ '.' :: (octetText x.b ++ '.' :: (octetText x.c ++ '.' :: octetText x.d)) := by
  simp [text, octets, List.intercalate]

/-- A written address reads as that address. -/
theorem IPv4.read?_text (x : IPv4) : read? x.text = some x := by
  have hpoint : ∀ us : List Char, ∀ c ∈ ('.' :: us).head?, c.isDigit = false := fun _ c hc => by
    rw [← Option.some_inj.1 hc]
    decide
  have hlast : readOctet (octetText x.d) = some (x.d, []) := by
    simpa using readOctet_append x.d [] (by simp)
  rw [read?, readIPv4, text_eq]
  simp [readOctet_append _ _ (hpoint _), readChar, hlast]

/-- The first octets are the first bits of the number of an address. -/
theorem IPv4.take_octets_eq_iff (x y : IPv4) {k : Nat} (hk : k ≤ 4) :
    x.octets.take k = y.octets.take k ↔ x.toNat >>> (32 - 8 * k) = y.toNat >>> (32 - 8 * k) := by
  obtain ⟨a, b, c, d⟩ := x
  obtain ⟨a', b', c', d'⟩ := y
  have hbyte : ∀ n : UInt8, n.toNat < 256 := UInt8.toNat_lt
  have ha := hbyte a; have hb := hbyte b; have hc := hbyte c; have hd := hbyte d
  have ha' := hbyte a'; have hb' := hbyte b'; have hc' := hbyte c'; have hd' := hbyte d'
  simp only [octets, toNat, List.foldl_cons, List.foldl_nil, Nat.shiftRight_eq_div_pow]
  match k, hk with
  | 0, _ => simp; omega
  | 1, _ => simp [← UInt8.toNat_inj]; omega
  | 2, _ => simp [← UInt8.toNat_inj]; omega
  | 3, _ => simp [← UInt8.toNat_inj]; omega
  | 4, _ => simp [← UInt8.toNat_inj]; omega

/-! ## Blocks -/

theorem isBlank_of_isDigit {c : Char} (h : c.isDigit) : Text.isBlank c = false := by
  have hc := toNat_of_isDigit h
  simp only [Text.isBlank, Bool.or_eq_false_iff, Bool.and_eq_false_iff, decide_eq_false_iff_not, beq_eq_false_iff_ne]
  omega

theorem trim_of_not_blank {cs : List Char} (h : ∀ c ∈ cs, Text.isBlank c = false) : Text.trim cs = cs := by
  have hdrop : ∀ {cs : List Char}, (∀ c ∈ cs, Text.isBlank c = false) → cs.dropWhile Text.isBlank = cs := by
    rintro (_ | ⟨c, cs⟩) h
    · rfl
    · exact List.dropWhile_cons_of_neg (by simp [h c (List.mem_cons_self ..)])
  rw [Text.trim, Text.trimStart, hdrop h, Text.trimEnd, hdrop (by simpa using h), List.reverse_reverse]

theorem IPv4.mem_text {x : IPv4} {c : Char} (h : c ∈ x.text) : c.isDigit ∨ c = '.' := by
  rw [text_eq] at h
  simp only [List.mem_append, List.mem_cons] at h
  rcases h with h | h | h | h | h | h | h
  case inr.inl | inr.inr.inr.inl | inr.inr.inr.inr.inr.inl => exact .inr h
  all_goals exact .inl (isDigit_of_mem_octetText h)

/-- A written block reads as that block. -/
theorem Block.read?_written (b : Block) : read? (b.address.text ++ '/' :: Nat.toDigits 10 b.length) = .ok b := by
  have hslash : ∀ c ∈ b.address.text, (c != '/') = true := fun c hc => by
    rcases IPv4.mem_text hc with h | rfl
    · simpa using fun e : c = '/' => absurd (e ▸ h) (by decide)
    · decide
  have haddress : (b.address.text ++ '/' :: Nat.toDigits 10 b.length).takeWhile (· != '/') = b.address.text := by
    rw [List.takeWhile_append_of_pos hslash]
    simp
  have htrim : Text.trim b.address.text = b.address.text := trim_of_not_blank fun c hc => by
    rcases IPv4.mem_text hc with h | rfl
    · exact isBlank_of_isDigit h
    · decide
  have hlength : Decimal.readNat? 255 (Text.trim (Nat.toDigits 10 b.length)) = some b.length := by
    have h : ∀ n < 33, Decimal.readNat? 255 (Text.trim (Nat.toDigits 10 n)) = some n := by decide +kernel
    exact h b.length (Nat.lt_succ_of_le b.length_le)
  simp only [read?, haddress, List.drop_left, hlength, htrim, IPv4.read?_text, b.length_le, dif_pos]

end FraudScreen.Network
