import FraudScreen.Proofs.Regex.Size
import FraudScreen.Proofs.Regex.Span

/-!
# Expressions for whole texts

An expression that is tied to both edges of a text and made of simple pieces in between (`Piece`) spells the
sequence of what its pieces read as (`spelled?_wholeSource`), is not too large if they are not (`fits_whole`), and
is found iff its pieces match the whole text one after another, and then the match is all of it (`find?_whole`).
-/
namespace FraudScreen.Regex

variable {t : List Char} {n : Nat}

theorem forall_mem_framed {α : Type} {P : α → Prop} {a b : α} {xs : List α} (ha : P a) (h : ∀ x ∈ xs, P x)
    (hb : P b) : ∀ x ∈ a :: xs ++ [b], P x := by
  intro x hx
  rcases List.mem_append.1 hx with hx | hx
  · rcases List.mem_cons.1 hx with rfl | hx
    · exact ha
    · exact h x hx
  · exact List.mem_singleton.1 hx ▸ hb

/-! ## Whole texts -/

/-- The expression that asks of a whole text to match some expressions one after another. -/
def whole (rs : List Regex) : Regex := sequence (look .textStart :: rs ++ [look .textEnd])

/-- A match of the whole begins at the start of the text and ends at its end. -/
theorem spans_whole {rs : List Regex} {u v : List Char} (hu : u <:+ t) :
    Spans t (whole rs) u v ↔ u = t ∧ v = [] ∧ SpansAll t rs t [] := by
  have hlen := hu.length_le
  have hstart : ∀ w, Spans t (look .textStart) u w ↔ w = u ∧ u = t := by
    intro w
    simp only [Spans, Look.holds, beq_iff_eq]
    constructor
    · rintro ⟨rfl, h⟩
      exact ⟨rfl, hu.eq_of_length (by omega)⟩
    · rintro ⟨rfl, h⟩
      exact ⟨rfl, by rw [h, Nat.sub_self]⟩
  have hstop : ∀ w, w <:+ t → (Spans t (look .textEnd) w v ↔ w = [] ∧ v = []) := by
    intro w hw
    have hlen := hw.length_le
    simp only [Spans, Look.holds, List.size_toArray, beq_iff_eq]
    constructor
    · rintro ⟨rfl, h⟩
      have : w = [] := List.eq_nil_of_length_eq_zero (by omega)
      exact ⟨this, this⟩
    · rintro ⟨rfl, rfl⟩
      exact ⟨rfl, Nat.sub_zero _⟩
  rw [whole, spans_sequence, List.cons_append, SpansAll]
  simp only [hstart, spansAll_append, spansAll_singleton]
  constructor
  · rintro ⟨_, ⟨rfl, rfl⟩, w, h, hw⟩
    obtain ⟨rfl, rfl⟩ := (hstop w h.suffix).1 hw
    exact ⟨rfl, rfl, h⟩
  · rintro ⟨rfl, rfl, h⟩
    exact ⟨u, ⟨rfl, rfl⟩, [], h, (hstop [] (List.nil_suffix)).2 ⟨rfl, rfl⟩⟩

/-- **An expression that asks for a whole text is found iff the text is a match, and then the match is all of
it.** -/
theorem find?_whole {rs : List Regex} (hf : ∀ r ∈ rs, r.isFlat) (m : Nat × Nat) :
    (whole rs).find? t.toArray = some m ↔ m = (0, t.length) ∧ SpansAll t rs t [] := by
  have hflat : (whole rs).isFlat := isFlat_sequence (forall_mem_framed rfl hf rfl)
  have hends : ∀ {i j}, i ≤ t.length → (j ∈ ends t.toArray (whole rs) i ↔
      i = 0 ∧ j = t.length ∧ SpansAll t rs t []) := by
    intro i j hi
    have hstart : t.drop i = t ↔ i = 0 := drop_eq_drop_iff hi (Nat.zero_le _)
    have hstop : j ≤ t.length ∧ t.drop j = [] ↔ j = t.length := by
      rw [List.drop_eq_nil_iff]
      exact Nat.eq_iff_le_and_ge.symm
    rw [mem_ends_iff hflat hi, spans_whole (List.drop_suffix i t), hstart, ← hstop, and_left_comm, and_assoc]
  have hfind : (whole rs).find? t.toArray =
      (List.range (t.length + 1)).findSome? fun i => (ends t.toArray (whole rs) i).head?.map (i, ·) := by
    simp only [find?, hflat, if_true, List.size_toArray]
  rw [hfind]
  by_cases hs : SpansAll t rs t []
  · have hhead : (ends t.toArray (whole rs) 0).head? = some t.length := by
      have hmem := (hends (j := t.length) (Nat.zero_le _)).2 ⟨rfl, rfl, hs⟩
      cases he : ends t.toArray (whole rs) 0 with
      | nil => simp [he] at hmem
      | cons j js =>
        have hj : j ∈ ends t.toArray (whole rs) 0 := he ▸ List.mem_cons_self ..
        rw [List.head?_cons, ((hends (Nat.zero_le _)).1 hj).2.1]
    rw [List.range_succ_eq_map, List.findSome?_cons, hhead]
    simp [hs, eq_comm]
  · have hnone : (List.range (t.length + 1)).findSome?
        (fun i => (ends t.toArray (whole rs) i).head?.map (i, ·)) = none := by
      refine List.findSome?_eq_none_iff.2 fun i hi => ?_
      have hi : i ≤ t.length := Nat.le_of_lt_succ (List.mem_range.1 hi)
      rw [Option.map_eq_none_iff, List.head?_eq_none_iff, List.eq_nil_iff_forall_not_mem]
      exact fun j hj => hs ((hends hi).1 hj).2.2
    rw [hnone]
    simp [hs]

/-! ## Pieces -/

/-- A piece of an expression that reads by itself, as a part that adds `n` bytes at most to a machine. -/
structure Piece (n : Nat) where
  source : List Char
  part : Part
  reads : ReadsAs source part
  depth_le : part.depth ≤ 1
  isFlat : part.regex.isFlat
  factors_eq : part.regex.factors = [part.regex]
  laysWithin : LaysWithin part.regex n

namespace Piece

/-- What the piece stands for. -/
def regex (p : Piece n) : Regex := p.part.regex

/-- More bytes may be allowed for. -/
def mono {m : Nat} (p : Piece n) (h : n ≤ m) : Piece m := { p with laysWithin := p.laysWithin.mono h }

theorem laysWithin_character (c : Char) : LaysWithin (text [c]) 128 := by
  have hsize := c.utf8Size_le_four
  exact (LaysWithin.text [c]).mono (by rw [Text.byteLength, Text.byteLength]; omega)

/-- A character that begins nothing else. -/
def ordinary (c : Char) (h : c ∉ syntaxCharacters) : Piece 128 where
  source := [c]
  part := .leaf (text [c])
  reads := readsAs_ordinary h
  depth_le := Nat.zero_le 1
  isFlat := rfl
  factors_eq := rfl
  laysWithin := laysWithin_character c

/-- A character whose meaning is taken away. -/
def escaped (c : Char) (h : c ∈ metaCharacters) : Piece 128 where
  source := ['\\', c]
  part := .leaf (text [c])
  reads := readsAs_backslash h
  depth_le := Nat.zero_le 1
  isFlat := rfl
  factors_eq := rfl
  laysWithin := laysWithin_character c

/-- What reads as a set. -/
def ofSet {cs : List Char} {s : Text.CodeSet} (h : ReadsAs cs (.leaf (.set s))) : Piece (Footprint.setBytes s) where
  source := cs
  part := .leaf (.set s)
  reads := h
  depth_le := Nat.zero_le 1
  isFlat := rfl
  factors_eq := rfl
  laysWithin := LaysWithin.set s

/-- What reads as a set, with a mark after it that asks for more than one or none of its members. -/
def repeatedSet {cs mark : List Char} {s : Text.CodeSet} {least : Nat} {most : Option Nat}
    (h : ReadsAs cs (.leaf (.set s))) (hm : Repeats mark least most) (h0 : most ≠ some 0) (h1 : most ≠ some 1) :
    Piece (max least (most.getD 1) * (Footprint.setBytes s + 40) + 112) where
  source := cs ++ mark
  part := (Part.leaf (.set s)).repeated least most true
  reads := h.repeated hm rfl
  depth_le := Nat.le_refl 1
  isFlat := by
    rw [Part.repeated, Part.leaf, repeated_set s h0 h1]
    rfl
  factors_eq := by
    rw [Part.repeated, Part.leaf, repeated_set s h0 h1]
    rfl
  laysWithin := by
    rw [Part.repeated, Part.leaf, repeated_set s h0 h1]
    exact (LaysWithin.set s).many least most true

end Piece

/-! ## Whole texts made of pieces -/

/-- The source that asks for a whole text. -/
def wholeSource (ps : List (Piece n)) : List Char := '^' :: ps.flatMap (·.source) ++ ['$']

variable (ps : List (Piece n))

/-- **Pieces between the edges of a text spell what asks of the whole text to match them one after another.** -/
theorem spelled?_wholeSource : spelled? (wholeSource ps) = some (whole (ps.map (·.regex))) := by
  let pieces : List (List Char × Part) :=
    (['^'], .leaf (.look .textStart)) :: (ps.map fun p => (p.source, p.part)) ++ [(['$'], .leaf (.look .textEnd))]
  have hp : ∀ p ∈ pieces, ReadsAs p.1 p.2 ∧ p.2.depth ≤ 1 :=
    forall_mem_framed ⟨readsAs_textStart, Nat.zero_le _⟩ (List.forall_mem_map.2 fun p _ => ⟨p.reads, p.depth_le⟩)
      ⟨readsAs_textEnd, Nat.zero_le _⟩
  have hs := spelled?_pieces (fun p hm => (hp p hm).1) fun p hm => (hp p hm).2
  have hsource : pieces.flatMap (·.1) = wholeSource ps := by simp [pieces, wholeSource, List.flatMap_map]
  have hparts : pieces.map (·.2.regex) = .look .textStart :: ps.map (·.regex) ++ [.look .textEnd] := by
    simp [pieces, Part.leaf, Piece.regex]
  rw [hsource, hparts] at hs
  exact hs

/-- The machine is as large as the pieces are together. -/
theorem fits_whole (hn : 32 ≤ n) (hsize : n * (ps.length + 2) + 240 ≤ Footprint.mostBytes) :
    (whole (ps.map (·.regex))).fits := by
  have hlook : ∀ l : Look, (look l).factors = [look l] ∧ LaysWithin (look l) n := fun l =>
    ⟨rfl, (LaysWithin.look l).mono hn⟩
  have hall : ∀ r ∈ look .textStart :: ps.map (·.regex) ++ [look .textEnd], r.factors = [r] ∧ LaysWithin r n :=
    forall_mem_framed (hlook _) (List.forall_mem_map.2 fun p _ => ⟨p.factors_eq, p.laysWithin⟩) (hlook _)
  refine fits_of_laysWithin (LaysWithin.sequence (fun r hr => (hall r hr).1) fun r hr => (hall r hr).2) ?_
  have hlen : (look .textStart :: ps.map (·.regex) ++ [look .textEnd]).length = ps.length + 2 := by simp
  rw [hlen]
  omega

/-- **An expression that asks for a whole text finds all of it or nothing.** -/
theorem find?_whole_pieces (m : Nat × Nat) :
    (whole (ps.map (·.regex))).find? t.toArray = some m ↔
      m = (0, t.length) ∧ SpansAll t (ps.map (·.regex)) t [] :=
  find?_whole (List.forall_mem_map.2 fun p _ => p.isFlat) m

end FraudScreen.Regex
