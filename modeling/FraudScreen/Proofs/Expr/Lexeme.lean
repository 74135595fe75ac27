import FraudScreen.Expr.Dialect
import FraudScreen.Proofs.Expr.Reading

/-!
# Lexemes of the rule dialect

The units that a rewriting step takes from the front of a rule, as they stand there, and the spelling that
the step writes for each. Reading loses nothing, `print_lexemes`, and a step is the spelling of the
lexeme at the front, `normalizeStep_eq`. A settled lexeme is one that the evaluator reads as it is.
-/
namespace FraudScreen.Expr

open Text

/-- The units of a rule. An equals sign completes the comparison before it or stands alone. -/
inductive Lexeme where
  | text (literal : List Char)
  | quoted (body : List Char)
  | equality
  | completion
  | lone
  | unequal
  | number (cs : List Char)
  | word (cs : List Char)
  | other (c : Char)
deriving DecidableEq, Repr

namespace Lexeme

/-- The characters in the rule. A single-quoted literal holds what follows its opening quote. -/
def print : Lexeme → List Char
  | text literal => literal
  | quoted body => '\'' :: body
  | equality => ['=', '=']
  | completion | lone => ['=']
  | unequal => ['<', '>']
  | number cs | word cs => cs
  | other c => [c]

/-- The characters that are written instead. -/
def spell : Lexeme → List Char
  | text literal => literal
  | quoted body => '"' :: (requote body).1
  | equality | lone => ['=', '=']
  | completion => ['=']
  | unequal => ['!', '=']
  | number cs => cs ++ if cs.all Char.isDigit then ['.', '0'] else []
  | word cs => respell cs
  | other c => [c]

/-- The words that stand for operators. -/
def keywords : List (List Char) := [['a', 'n', 'd'], ['o', 'r'], ['n', 'o', 't']]

/-- The lexeme is evaluator syntax: no single-quoted literal, no lone equals sign, no `<>`, no whole number
and no keyword. -/
def settled : Lexeme → Bool
  | quoted _ | lone | unequal => false
  | number cs => !cs.all Char.isDigit
  | word cs => !keywords.contains cs
  | text _ | equality | completion | other _ => true

theorem respell_eq_self {cs : List Char} (h : keywords.contains cs = false) : respell cs = cs := by
  simp only [keywords, List.contains_cons, List.contains_nil, Bool.or_false, Bool.or_eq_false_iff,
    beq_eq_false_iff_ne] at h
  rw [respell, if_neg h.1, if_neg h.2.1, if_neg h.2.2]

/-- A settled lexeme is written as it stands. -/
theorem spell_eq_print {l : Lexeme} (h : l.settled) : l.spell = l.print := by
  cases l with
  | text | equality | completion | other => rfl
  | quoted | lone | unequal => exact Bool.noConfusion h
  | number cs =>
    simp only [settled, Bool.not_eq_true'] at h
    simp [spell, print, h]
  | word cs => exact respell_eq_self (by simpa [settled] using h)

end Lexeme

/-! ## Reading -/

/-- Splits a single-quoted literal after its closing quote, the opening one read already. -/
def spanSingle : List Char → List Char × List Char
  | [] => ([], [])
  | '\\' :: c :: rest => ('\\' :: c :: (spanSingle rest).1, (spanSingle rest).2)
  | '\'' :: rest => (['\''], rest)
  | c :: rest => (c :: (spanSingle rest).1, (spanSingle rest).2)

theorem spanSingle_append (cs : List Char) : (spanSingle cs).1 ++ (spanSingle cs).2 = cs := by
  fun_induction spanSingle cs with
  | case1 => rfl
  | case2 c rest ih => simp [ih]
  | case3 => rfl
  | case4 c rest _ _ ih => simp [ih]

/-- Only the literal itself is requoted. -/
theorem requote_eq (cs : List Char) : requote cs = ((requote (spanSingle cs).1).1, (spanSingle cs).2) := by
  fun_induction spanSingle cs with
  | case1 => rfl
  | case2 c rest ih => rw [requote, requote, ih]
  | case3 => rfl
  | case4 c rest hb hs ih =>
    by_cases hd : c = '"'
    · subst hd
      rw [requote, requote, ih]
    · by_cases hc : c = '\\'
      · cases rest with
        | nil => subst hc; rfl
        | cons a rest => exact absurd rfl (hb a rest hc)
      · rw [requote, requote, ih]
        all_goals simp_all

/-- Splits off a number as it stands: digits and points, an exponent mark, and a suffix. -/
def spanNumeral (cs : List Char) : List Char × List Char :=
  let mark := spanExponentMark (cs.dropWhile isDecimalPart)
  (cs.takeWhile isDecimalPart ++ (mark.1 ++ mark.2.takeWhile isNumberSuffix), mark.2.dropWhile isNumberSuffix)

theorem spanNumeral_append (cs : List Char) : (spanNumeral cs).1 ++ (spanNumeral cs).2 = cs := by
  simp only [spanNumeral, List.append_assoc, List.takeWhile_append_dropWhile, spanExponentMark_append]

theorem all_isDigit_takeWhile (cs : List Char) :
    (cs.takeWhile isDecimalPart).all Char.isDigit = !(cs.takeWhile isDecimalPart).contains '.' := by
  rw [List.contains_eq_any_beq, List.not_any_eq_all_not, Bool.eq_iff_iff, List.all_eq_true, List.all_eq_true]
  refine forall₂_congr fun c hc => ?_
  have h : isDecimalPart c := List.mem_takeWhile_imp hc
  by_cases hp : c = '.'
  · subst hp
    decide
  · have hd : c.isDigit := by simpa [isDecimalPart, hp] using h
    simp [hd, Ne.symm hp]

/-- The suffix after the digits and points of a number is not of digits alone. -/
theorem all_isDigit_exponent (cs : List Char) :
    let mark := spanExponentMark (cs.dropWhile isDecimalPart)
    (mark.1 ++ mark.2.takeWhile isNumberSuffix).all Char.isDigit =
      (mark.1.isEmpty && (mark.2.takeWhile isNumberSuffix).isEmpty) := by
  cases h : cs.dropWhile isDecimalPart with
  | nil => rfl
  | cons a rest =>
    have ha : isDecimalPart a = false := by
      have := List.head?_dropWhile_not isDecimalPart cs
      simpa [h] using this
    have hd : a.isDigit = false := (Bool.or_eq_false_iff.1 ha).1
    by_cases he : a = 'e' ∨ a = 'E'
    · obtain ⟨more, hm⟩ : ∃ more, (spanExponentMark (a :: rest)).1 = a :: more := by
        simp only [spanExponentMark, if_pos he]
        split
        · exact ⟨_, rfl⟩
        · split <;> exact ⟨_, rfl⟩
      simp [hm, hd]
    · simp only [spanExponentMark, if_neg he, List.takeWhile_cons]
      split <;> simp [hd]

/-- A number is written as it stands, with a decimal place if it is whole. -/
theorem spanNumber_eq (cs : List Char) :
    spanNumber cs = ((Lexeme.number (spanNumeral cs).1).spell, (spanNumeral cs).2) := by
  have hw : (spanNumeral cs).1.all Char.isDigit =
      ((spanExponentMark (cs.dropWhile isDecimalPart)).1.isEmpty &&
        ((spanExponentMark (cs.dropWhile isDecimalPart)).2.takeWhile isNumberSuffix).isEmpty &&
          !(cs.takeWhile isDecimalPart).contains '.') := by
    rw [spanNumeral, List.all_append, all_isDigit_takeWhile, all_isDigit_exponent, Bool.and_comm]
  rw [Lexeme.spell, hw]
  simp only [spanNumber, spanNumeral, List.append_assoc]
  rfl

/-- An equals sign after this character completes a comparison. -/
def completes (last : Option Char) : Bool := last.any ['<', '>', '!', '='].contains

/-- The lexeme at the front of a text and the rest, given the character before. -/
def nextLexeme (last : Option Char) (c : Char) (rest : List Char) : Lexeme × List Char :=
  if c = '"' then (.text ('"' :: (spanText rest).1), (spanText rest).2)
  else if c = '\'' then (.quoted (spanSingle rest).1, (spanSingle rest).2)
  else if c = '=' then
    if rest.head? = some '=' then (.equality, rest.tail)
    else (if completes last then .completion else .lone, rest)
  else if c = '<' ∧ rest.head? = some '>' then (.unequal, rest.tail)
  else if c.isDigit ∨ (c = '.' ∧ rest.head?.any Char.isDigit) then
    (.number (spanNumeral (c :: rest)).1, (spanNumeral (c :: rest)).2)
  else if isAlphabetic c || c == '_' then
    (.word (c :: rest.takeWhile isNamePart), rest.dropWhile isNamePart)
  else (.other c, rest)

/-- Nothing is lost. -/
theorem print_nextLexeme (last : Option Char) (c : Char) (rest : List Char) :
    (nextLexeme last c rest).1.print ++ (nextLexeme last c rest).2 = c :: rest := by
  unfold nextLexeme
  split
  · rename_i h
    simp [Lexeme.print, spanText_append, h]
  split
  · rename_i h
    simp [Lexeme.print, spanSingle_append, h]
  split
  · rename_i h
    subst h
    split
    · rename_i h
      obtain ⟨more, rfl⟩ : ∃ more, rest = '=' :: more := List.head?_eq_some_iff.1 h
      rfl
    · split <;> rfl
  split
  · rename_i h
    obtain ⟨rfl, h⟩ := h
    obtain ⟨more, rfl⟩ : ∃ more, rest = '>' :: more := List.head?_eq_some_iff.1 h
    rfl
  split
  · exact spanNumeral_append (c :: rest)
  split
  · simp [Lexeme.print, List.takeWhile_append_dropWhile]
  · rfl

theorem spellEquals_eq (last : Option Char) :
    spellEquals last = (if completes last then Lexeme.completion else .lone).spell := by
  cases last with
  | none => rfl
  | some c =>
    have h : completes (some c) = true ↔ c = '<' ∨ c = '>' ∨ c = '!' ∨ c = '=' := by simp [completes]
    simp only [spellEquals, h]
    split <;> rfl

/-- **A step writes the spelling of the lexeme at the front** and leaves what follows it. -/
theorem normalizeStep_eq (last : Option Char) (c : Char) (rest : List Char) :
    normalizeStep last c rest = ((nextLexeme last c rest).1.spell, (nextLexeme last c rest).2) := by
  unfold normalizeStep nextLexeme
  split
  · rfl
  split
  · rw [requote_eq rest]
    rfl
  split
  · split
    · rfl
    · rename_i h
      have hn : rest.head? ≠ some '=' := fun he =>
        have ⟨_, hm⟩ := List.head?_eq_some_iff.1 he
        h _ hm
      rw [if_neg hn, spellEquals_eq]
  split
  · rfl
  split
  · exact spanNumber_eq (c :: rest)
  split
  · rfl
  · rfl

/-- Reading is a step of the rewriting, so what is left is not longer. -/
theorem length_nextLexeme_le (last : Option Char) (c : Char) (rest : List Char) :
    (nextLexeme last c rest).2.length ≤ rest.length := by
  have h := length_normalizeStep_le last c rest
  rwa [normalizeStep_eq] at h

theorem print_ne_nil (last : Option Char) (c : Char) (rest : List Char) :
    (nextLexeme last c rest).1.print ≠ [] := by
  intro h
  have hl := congrArg List.length (print_nextLexeme last c rest)
  have := length_nextLexeme_le last c rest
  simp only [h, List.nil_append, List.length_cons] at hl
  omega

/-- All lexemes of a text. -/
def lexemes (last : Option Char) : List Char → List Lexeme
  | [] => []
  | c :: rest =>
    let next := nextLexeme last c rest
    next.1 :: lexemes (next.1.print.getLast?.or last) next.2
termination_by cs => cs.length
decreasing_by
  have := length_nextLexeme_le last c rest
  simp only [List.length_cons]
  omega

theorem print_lexemes (last : Option Char) (cs : List Char) :
    (lexemes last cs).flatMap Lexeme.print = cs := by
  induction last, cs using lexemes.induct with
  | case1 => rw [lexemes, List.flatMap_nil]
  | case2 last c rest next ih => rw [lexemes, List.flatMap_cons, ih, print_nextLexeme]

end FraudScreen.Expr
