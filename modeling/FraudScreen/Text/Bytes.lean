/-!
# Byte offsets in texts

Lengths and offsets of texts count the bytes of their UTF-8 form, so an offset may fall inside a
character.
-/
namespace FraudScreen.Text

/-- The number of bytes of a text. -/
def byteLength : List Char → Nat
  | [] => 0
  | c :: cs => c.utf8Size + byteLength cs

theorem byteLength_append (as bs : List Char) : byteLength (as ++ bs) = byteLength as + byteLength bs := by
  induction as with
  | nil => simp [byteLength]
  | cons a as ih => simp [byteLength, ih, Nat.add_assoc]

theorem byteLength_le (cs : List Char) : byteLength cs ≤ 4 * cs.length := by
  induction cs with
  | nil => exact Nat.le_refl 0
  | cons c cs ih =>
    have hsize := c.utf8Size_le_four
    rw [byteLength, List.length_cons]
    omega

/-- Splits a text after `n` bytes; `none` if that lies inside a character or beyond the end. -/
def splitAtByte : Nat → List Char → Option (List Char × List Char)
  | 0, cs => some ([], cs)
  | _ + 1, [] => none
  | n + 1, c :: cs =>
    if n + 1 < c.utf8Size then none
    else (splitAtByte (n + 1 - c.utf8Size) cs).map fun (before, after) => (c :: before, after)

theorem append_of_splitAtByte {n : Nat} {cs before after : List Char}
    (h : splitAtByte n cs = some (before, after)) : before ++ after = cs := by
  induction cs generalizing n before after with
  | nil =>
    cases n with
    | zero => simp_all [splitAtByte]
    | succ n => simp [splitAtByte] at h
  | cons c cs ih =>
    cases n with
    | zero => simp_all [splitAtByte]
    | succ n =>
      simp only [splitAtByte] at h
      split at h
      · cases h
      · obtain ⟨p, hp, hq⟩ := Option.map_eq_some_iff.1 h
        obtain ⟨b, a⟩ := p
        cases hq
        simp [ih hp]

/-- The bytes of a text from `start` up to `stop`; `none` if an end falls inside a character or beyond
the end of the text. -/
def sliceBytes (cs : List Char) (start stop : Nat) : Option (List Char) := do
  let (upTo, _) ← splitAtByte stop cs
  let (_, slice) ← splitAtByte start upTo
  return slice

end FraudScreen.Text
