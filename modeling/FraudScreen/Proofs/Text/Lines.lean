import Mathlib.Data.List.TakeWhile
import FraudScreen.Text.Blank

/-!
# Lines

A line may end with a line feed alone or with a carriage return before it. To a reader who takes no account of the
blanks around a line, and none of empty lines, that makes no difference: cutting a text at its line feeds gives him
the same (`trimmed_splitOn`).
-/
namespace FraudScreen.Text

/-- The lines of a text. A line feed ends a line, and so does a carriage return with a line feed after it. What
follows the last line feed is a line unless it is empty. -/
def lines : List Char → List (List Char)
  | [] => []
  | '\n' :: rest => [] :: lines rest
  | '\r' :: '\n' :: rest => [] :: lines rest
  | c :: rest =>
    match lines rest with
    | [] => [[c]]
    | line :: more => (c :: line) :: more

/-! ## Blanks at the end -/

theorem trimEnd_append {cs blanks : List Char} (h : ∀ c ∈ blanks, isBlank c) : trimEnd (cs ++ blanks) = trimEnd cs := by
  have hblanks : blanks.reverse.dropWhile isBlank = [] := List.dropWhile_eq_nil_iff.2 (by simpa using h)
  rw [trimEnd, List.reverse_append, List.dropWhile_append, hblanks]
  rfl

/-- Blanks after a text are not seen. -/
theorem trim_append {cs blanks : List Char} (h : ∀ c ∈ blanks, isBlank c) : trim (cs ++ blanks) = trim cs := by
  rw [trim, trim, trimStart, List.dropWhile_append]
  split
  · rename_i he
    rw [List.dropWhile_eq_nil_iff.2 h, trimStart, List.isEmpty_iff.1 he]
  · exact trimEnd_append h

/-- Nothing is left of a text if and only if there is nothing in it but blanks. -/
theorem trim_eq_nil_iff {cs : List Char} : trim cs = [] ↔ ∀ c ∈ cs, isBlank c := by
  constructor
  · intro h
    rw [trim, trimEnd, List.reverse_eq_nil_iff, List.dropWhile_eq_nil_iff] at h
    have hstart : trimStart cs = [] := by
      by_contra hne
      have hhead := List.head_dropWhile_not isBlank hne
      exact absurd (h _ (List.mem_reverse.2 (List.head_mem hne))) (by simp [trimStart, hhead])
    exact List.dropWhile_eq_nil_iff.1 hstart
  · intro h
    rw [← List.nil_append cs, trim_append h]
    rfl

/-! ## Cutting at line feeds -/

theorem lines_cons {c : Char} {rest : List Char} (hfeed : c ≠ '\n') (hreturn : ∀ more, c = '\r' → rest ≠ '\n' :: more) :
    lines (c :: rest) = (c :: (lines rest).head?.getD []) :: (lines rest).tail := by
  rw [lines]
  · cases lines rest <;> rfl
  · exact hfeed
  · exact hreturn

/-- The first piece of a text that is cut at its line feeds is its first line, up to a carriage return. -/
def FirstPiece (piece : List Char) : Option (List Char) → Prop
  | none => piece = []
  | some line => piece = line ∨ piece = line ++ ['\r']

theorem FirstPiece.trim {piece : List Char} : ∀ {line : Option (List Char)}, FirstPiece piece line →
    Text.trim piece = Text.trim (line.getD [])
  | none, h => congrArg Text.trim h
  | some _, .inl h => congrArg Text.trim h
  | some _, .inr h => by
    rw [h, trim_append fun c hc => by obtain rfl := List.mem_singleton.1 hc; decide]
    rfl

theorem FirstPiece.cons {piece : List Char} (c : Char) : ∀ {line : Option (List Char)}, FirstPiece piece line →
    FirstPiece (c :: piece) (some (c :: line.getD []))
  | none, h => .inl (congrArg (List.cons c) h)
  | some _, .inl h => .inl (congrArg (List.cons c) h)
  | some _, .inr h => .inr (congrArg (List.cons c) h)

/-- What is left of lines without the blanks around them, if only those count that `p` admits. -/
def trimmed (p : List Char → Bool) (ls : List (List Char)) : List (List Char) := (ls.map trim).filter p

section

variable {p : List Char → Bool} (hp : p [] = false)

include hp

/-- A first piece counts as much as the first line, and an empty one that is no line does not count. -/
theorem trimmed_cons_of_firstPiece {piece : List Char} {pieces ls : List (List Char)} (h : FirstPiece piece ls.head?)
    (ht : trimmed p pieces = trimmed p ls.tail) : trimmed p (piece :: pieces) = trimmed p ls := by
  unfold trimmed at ht ⊢
  rw [List.map_cons, List.filter_cons, ht]
  cases ls with
  | nil =>
    obtain rfl : piece = [] := h
    have hempty : p (Text.trim []) = false := hp
    simp [hempty]
  | cons line more =>
    have htrim : Text.trim piece = Text.trim line := h.trim
    rw [List.map_cons, List.filter_cons, htrim, List.tail_cons]

/-- The pieces of a text are its lines, one by one. -/
theorem exists_splitOn (cs : List Char) : ∃ piece pieces,
    cs.splitOn '\n' = piece :: pieces ∧ FirstPiece piece (lines cs).head? ∧
      trimmed p pieces = trimmed p (lines cs).tail := by
  have hcut (rest : List Char) : ('\n' :: rest).splitOn '\n' = [] :: rest.splitOn '\n' :=
    List.splitOn_cons_eq_if_modifyHead ..
  have hkeep {c : Char} (rest : List Char) (h : c ≠ '\n') :
      (c :: rest).splitOn '\n' = (rest.splitOn '\n').modifyHead (c :: ·) := by
    rw [List.splitOn_cons_eq_if_modifyHead, if_neg (by simpa using h)]
  induction cs using lines.induct with
  | case1 => exact ⟨[], [], rfl, rfl, rfl⟩
  | case2 rest ih =>
    obtain ⟨piece, pieces, hs, hf, ht⟩ := ih
    refine ⟨[], _, hcut rest, .inl rfl, ?_⟩
    rw [hs, trimmed_cons_of_firstPiece hp hf ht]
    rfl
  | case3 rest ih =>
    obtain ⟨piece, pieces, hs, hf, ht⟩ := ih
    refine ⟨['\r'], _, by rw [hkeep _ (by decide), hcut]; rfl, .inr rfl, ?_⟩
    rw [hs, trimmed_cons_of_firstPiece hp hf ht]
    rfl
  | case4 c rest hfeed hreturn _ ih | case5 c rest hfeed hreturn _ _ _ ih =>
    obtain ⟨piece, pieces, hs, hf, ht⟩ := ih
    refine ⟨c :: piece, pieces, by rw [hkeep rest hfeed, hs]; rfl, ?_, ?_⟩
    · rw [lines_cons hfeed hreturn]
      exact hf.cons c
    · rw [lines_cons hfeed hreturn]
      exact ht

/-- Lines and pieces are the same to a reader who takes no account of blanks around them and of empty ones. -/
theorem trimmed_splitOn (cs : List Char) : trimmed p (cs.splitOn '\n') = trimmed p (lines cs) := by
  obtain ⟨piece, pieces, hs, hf, ht⟩ := exists_splitOn hp cs
  rw [hs, trimmed_cons_of_firstPiece hp hf ht]

end

end FraudScreen.Text
