import FraudScreen.Expr.Eval
import FraudScreen.Proofs.Expr.Precedence
import FraudScreen.Proofs.Expr.Truthiness

/-!
# Rules of operands

Operands in parentheses, some of them negated, joined by connectives: `connected`, and what they mean: `verdict`.
Each operand stands alone, so it is put into the evaluator's syntax, outlined and wrapped by itself, whatever
stands around it: `normalizeAfter_connected`, `outline_normalRule` and `withTruthinessChars_normalRule`.
-/
namespace FraudScreen.Expr

open Text Reader

/-! ## Rules of operands -/

/-- The word for a connective. -/
def Connective.word : Connective → String
  | .and => "and"
  | .or => "or"

/-- An operand: an expression that stands alone and that compiles by itself, perhaps negated. -/
structure Operand where
  negated : Bool
  text : String
  node : Node
  standsAlone : standsAlone .dialect text.toList
  compiles : compile text = .ok node

namespace Operand

/-- The operand as it stands in a rule. -/
def source (o : Operand) : String := (if o.negated then "not " else "") ++ "(" ++ o.text ++ ")"

/-- The truth value of an operand. -/
def truth (b : Bindings) (o : Operand) : Eval Bool := do
  let t ← (← o.node.eval b).truth
  return if o.negated then !t else t

end Operand

/-- Operands joined by connectives. -/
def connected (first : Operand) (rest : List (Connective × Operand)) : String :=
  rest.foldl (fun s (op, o) => s ++ " " ++ op.word ++ " " ++ o.source) first.source

/-- What operands joined by connectives mean: all are evaluated from left to right, and some maximal run joined
by `and` has to be true throughout. -/
def verdict (b : Bindings) (first : Operand) (rest : List (Connective × Operand)) : Eval Value := do
  let t ← first.truth b
  let ts ← truths (Operand.truth b) rest
  return .bool ((runs t ts).any (·.all id))

/-! ## In the evaluator's syntax -/

/-- A text in parentheses, perhaps negated. -/
def parenthesize (negated : Bool) (cs : List Char) : List Char :=
  (if negated then ['!', ' '] else []) ++ '(' :: (cs ++ [')'])

/-- A connective between blanks. -/
def spaced (op : Connective) : List Char := ' ' :: (op.symbol ++ [' '])

section

variable (last : Option Char) (more : List Char)

theorem normalizeAfter_of_step {last : Option Char} {c a : Char} {rest written left : List Char}
    (h : normalizeStep last c rest = (written, left)) (ha : written.getLast? = some a) :
    normalizeAfter last (c :: rest) = written ++ normalizeAfter (some a) left := by
  rw [normalizeAfter, h, ha]
  rfl

theorem normalizeAfter_blank : normalizeAfter last (' ' :: more) = ' ' :: normalizeAfter (some ' ') more :=
  have h : normalizeStep last ' ' more = ([' '], more) := rfl
  normalizeAfter_of_step h rfl

theorem normalizeAfter_opening : normalizeAfter last ('(' :: more) = '(' :: normalizeAfter (some '(') more :=
  have h : normalizeStep last '(' more = (['('], more) := rfl
  normalizeAfter_of_step h rfl

/-- In parentheses a text is rewritten by itself. -/
theorem normalizeAfter_parenthesized {d d' : Nat} {b b' : Bool} {cs : List Char}
    (h : read .dialect (outside d b) cs = some (outside d' b')) : normalizeAfter last ('(' :: (cs ++ ')' :: more)) =
      '(' :: (normalizeAfter none cs ++ ')' :: normalizeAfter (some ')') more) := by
  have he : spellEquals (some '(') = spellEquals none := rfl
  rw [normalizeAfter_opening, normalizeAfter_append (by decide) (some '(') h, normalizeAfter_congr he]

theorem normalizeAfter_not : normalizeAfter last ("not ".toList ++ more) =
    ['!', ' '] ++ normalizeAfter (some ' ') more := by
  have h : normalizeStep last 'n' ('o' :: 't' :: ' ' :: more) = (['!'], ' ' :: more) := rfl
  change normalizeAfter last ('n' :: 'o' :: 't' :: ' ' :: more) = '!' :: ' ' :: normalizeAfter (some ' ') more
  rw [normalizeAfter_of_step h rfl, normalizeAfter_blank]
  rfl

theorem normalizeAfter_link (op : Connective) : normalizeAfter last (' ' :: (op.word.toList ++ ' ' :: more)) =
    spaced op ++ normalizeAfter (some ' ') more := by
  rw [normalizeAfter_blank]
  cases op with
  | and =>
    have h : normalizeStep (some ' ') 'a' ('n' :: 'd' :: ' ' :: more) = (['&', '&'], ' ' :: more) := rfl
    change ' ' :: normalizeAfter (some ' ') ('a' :: 'n' :: 'd' :: ' ' :: more) = _
    rw [normalizeAfter_of_step h rfl, normalizeAfter_blank]
    rfl
  | or =>
    have h : normalizeStep (some ' ') 'o' ('r' :: ' ' :: more) = (['|', '|'], ' ' :: more) := rfl
    change ' ' :: normalizeAfter (some ' ') ('o' :: 'r' :: ' ' :: more) = _
    rw [normalizeAfter_of_step h rfl, normalizeAfter_blank]
    rfl

end

/-- An operand in the evaluator's syntax. -/
def Operand.normal (o : Operand) : List Char := normalizeAfter none o.text.toList

theorem Operand.standsAlone_normal (o : Operand) : FraudScreen.Expr.standsAlone .evaluator o.normal := by
  obtain ⟨b, hb⟩ := standsAlone_iff.1 o.standsAlone
  exact standsAlone_iff.2 ⟨b, read_normalizeAfter none hb⟩

/-- An operand is rewritten by itself. -/
theorem normalizeAfter_source (o : Operand) (last : Option Char) (more : List Char) :
    normalizeAfter last (o.source.toList ++ more) =
      parenthesize o.negated o.normal ++ normalizeAfter (some ')') more := by
  obtain ⟨b, hb⟩ := standsAlone_iff.1 o.standsAlone
  have hp (last : Option Char) : normalizeAfter last ('(' :: (o.text.toList ++ ')' :: more)) =
      '(' :: (o.normal ++ ')' :: normalizeAfter (some ')') more) := normalizeAfter_parenthesized last more hb
  unfold Operand.source parenthesize
  cases o.negated with
  | false => simpa using hp last
  | true =>
    have hn := normalizeAfter_not last ('(' :: (o.text.toList ++ ')' :: more))
    rw [hp] at hn
    simpa using hn

/-- Operands joined by connectives, in the evaluator's syntax. -/
def normalRule (first : Operand) (rest : List (Connective × Operand)) : List Char :=
  parenthesize first.negated first.normal ++
    rest.flatMap fun q => spaced q.1 ++ parenthesize q.2.negated q.2.normal

theorem toList_connected (first : Operand) (rest : List (Connective × Operand)) :
    (connected first rest).toList =
      first.source.toList ++ rest.flatMap fun q => ' ' :: (q.1.word.toList ++ ' ' :: q.2.source.toList) := by
  unfold connected
  generalize first.source = s
  induction rest generalizing s with
  | nil => simp
  | cons q rest ih => simp [ih]

theorem normalizeAfter_connected (first : Operand) (rest : List (Connective × Operand)) :
    normalizeAfter none (connected first rest).toList = normalRule first rest := by
  rw [toList_connected, normalizeAfter_source, normalRule]
  congr 1
  induction rest with
  | nil => rw [List.flatMap_nil, List.flatMap_nil, normalizeAfter]
  | cons q rest ih =>
    rw [List.flatMap_cons, List.flatMap_cons, ← ih, List.append_assoc, ← normalizeAfter_source,
      ← normalizeAfter_link (some ')')]
    simp

/-! ## The outline -/

/-- The parts of a text in parentheses, perhaps negated. -/
def operandParts (negated : Bool) (cs : List Char) : List Part :=
  if negated then [.not [' '] [.group (outline cs) true]] else [.group (outline cs) true]

/-- The parts of a connective between blanks. -/
def spacedParts (op : Connective) : List Part := [.char ' ', .link op, .char ' ']

/-- The marks of the text are paired, and leave these parts behind. -/
def Outlines (cs : List Char) (ps : List Part) : Prop := ∃ ls, Paired (marksOf cs) ls ∧ settle ls = ps

theorem Outlines.outline {cs : List Char} {ps : List Part} (h : Outlines cs ps) :
    FraudScreen.Expr.outline cs = ps := by
  obtain ⟨ls, hp, rfl⟩ := h
  exact hp.settle_eq

theorem Outlines.nil : Outlines [] [] := ⟨[], by rw [marksOf]; exact .nil, rfl⟩

/-- A text in parentheses has the outline of its own. -/
theorem Outlines.operand {cs more : List Char} {ps : List Part} (hm : Outlines more ps) (negated : Bool)
    (h : standsAlone .evaluator cs) :
    Outlines (parenthesize negated cs ++ more) (operandParts negated cs ++ ps) := by
  obtain ⟨ls, hp, rfl⟩ := hm
  obtain ⟨b, hb⟩ := standsAlone_iff.1 h
  have hg : marksOf ('(' :: (cs ++ ')' :: more)) = .opening :: (marksOf cs ++ .closing :: marksOf more) := by
    rw [marksOf_opening, ← marksOf_closing, ← marksOf_append (by decide) hb]
  have hpair := hp.parenthesized h
  rw [← hg] at hpair
  cases negated with
  | false => exact ⟨_, by simpa [parenthesize] using hpair, rfl⟩
  | true =>
    have hn : marksOf ('!' :: ' ' :: '(' :: (cs ++ ')' :: more)) =
        .bang :: .char ' ' :: marksOf ('(' :: (cs ++ ')' :: more)) := by
      have hb : nextMark '!' (' ' :: '(' :: (cs ++ ')' :: more)) = (.bang, _) := rfl
      rw [marksOf_of_nextMark hb, marksOf_blank]
    have hs : (Loose.Whole (some (.char ' '))) := by simp [Loose.Whole, Part.Whole]
    have hpair : Paired (marksOf ('!' :: ' ' :: '(' :: (cs ++ ')' :: more))) _ :=
      hn ▸ Paired.mark (l := none) rfl trivial (.mark rfl hs hpair)
    exact ⟨_, by simpa [parenthesize] using hpair, rfl⟩

theorem Outlines.spaced {more : List Char} {ps : List Part} (hm : Outlines more ps) (op : Connective) :
    Outlines (spaced op ++ more) (spacedParts op ++ ps) := by
  obtain ⟨ls, hp, rfl⟩ := hm
  have hn : marksOf (FraudScreen.Expr.spaced op ++ more) =
      .char ' ' :: .link op :: .char ' ' :: marksOf more := by
    cases op with
    | and =>
      have h : nextMark '&' ('&' :: ' ' :: more) = (.link .and, ' ' :: more) := rfl
      rw [← marksOf_blank, ← marksOf_of_nextMark h, ← marksOf_blank]
      rfl
    | or =>
      have h : nextMark '|' ('|' :: ' ' :: more) = (.link .or, ' ' :: more) := rfl
      rw [← marksOf_blank, ← marksOf_of_nextMark h, ← marksOf_blank]
      rfl
  have hs : (Loose.Whole (some (.char ' '))) := by simp [Loose.Whole, Part.Whole]
  have hl : (Loose.Whole (some (.link op))) := trivial
  exact ⟨_, hn ▸ Paired.mark rfl hs (.mark rfl hl (.mark rfl hs hp)), rfl⟩

/-- The parts of an operand. -/
def Operand.parts (o : Operand) : List Part := operandParts o.negated o.normal

def ruleParts (first : Operand) (rest : List (Connective × Operand)) : List Part :=
  first.parts ++ rest.flatMap fun q => spacedParts q.1 ++ q.2.parts

theorem outline_normalRule (first : Operand) (rest : List (Connective × Operand)) :
    outline (normalRule first rest) = ruleParts first rest := by
  have hrest : Outlines (rest.flatMap fun q => spaced q.1 ++ parenthesize q.2.negated q.2.normal)
      (rest.flatMap fun q => spacedParts q.1 ++ q.2.parts) := by
    induction rest with
    | nil => exact .nil
    | cons q rest ih =>
      rw [List.flatMap_cons, List.flatMap_cons, List.append_assoc, List.append_assoc]
      exact (ih.operand q.2.negated q.2.standsAlone_normal).spaced q.1
  exact (hrest.operand first.negated first.standsAlone_normal).outline

/-! ## Calls around the operands -/

/-- A text in parentheses, or the negation of its truth value. -/
def operandText (negated : Bool) (cs : List Char) : List Char :=
  if negated then '!' :: callText ('(' :: (cs ++ [')'])) else '(' :: (cs ++ [')'])

/-- An operand with the operands inside it wrapped. -/
def Operand.rewritten (o : Operand) : List Char := operandText o.negated (withTruthinessChars o.normal)

theorem renderParts_operand (o : Operand) (ps : List Part) :
    renderParts (o.parts ++ ps) = .plain o.rewritten :: renderParts ps := by
  unfold Operand.parts Operand.rewritten
  cases o.negated <;> rfl

theorem solid_rewritten (o : Operand) : Solid o.rewritten := by
  unfold Operand.rewritten
  generalize withTruthinessChars o.normal = cs
  cases o.negated with
  | false => exact ⟨⟨'(', _, rfl, rfl⟩, ⟨'(' :: cs, ')', rfl, rfl⟩⟩
  | true =>
    refine ⟨⟨'!', _, rfl, rfl⟩, ⟨'!' :: (truthyName.toList ++ '(' :: '(' :: (cs ++ [')'])), ')', ?_, rfl⟩⟩
    simp [operandText, callText]

/-- The operands of a clause are wrapped one by one, if there is more than one. -/
theorem joinPieces_rule : ∀ (rest : List (Connective × Operand)) (o : Operand)
    (linked : List (List Char × Connective)) {pre : List Char}, (∀ c ∈ pre, isBlank c) →
    (linked ≠ [] ∨ rest ≠ []) →
      joinPieces ⟨linked, pre⟩ (renderParts (ruleParts o rest)) =
        (linked.flatMap fun (operand, op) => wrapOperand operand ++ op.symbol) ++
          (pre ++ (callText o.rewritten ++ rest.flatMap fun q => spaced q.1 ++ callText q.2.rewritten))
  | [], o, linked, pre, hpre, hl => by
    have hl : linked.isEmpty = false := by simpa using hl
    have hnil : ∀ c ∈ ([] : List Char), isBlank c := fun _ h => absurd h List.not_mem_nil
    have hw := wrapOperand_eq hpre (solid_rewritten o) hnil
    rw [List.append_nil, List.append_nil] at hw
    rw [ruleParts, renderParts_operand]
    simp only [List.flatMap_nil, renderParts, joinPieces, Clause.render, hl, hw, List.append_nil]
    rfl
  | (op, o') :: rest, o, linked, pre, hpre, _ => by
    have hblank : ∀ c ∈ [' '], isBlank c := List.all_eq_true.1 (by decide)
    have hw := wrapOperand_eq hpre (solid_rewritten o) hblank
    have ih := joinPieces_rule rest o' (linked ++ [(pre ++ (o.rewritten ++ [' ']), op)]) hblank (.inl (by simp))
    have hs : joinPieces ⟨linked, pre⟩ (renderParts (ruleParts o ((op, o') :: rest))) =
        joinPieces ⟨linked ++ [(pre ++ (o.rewritten ++ [' ']), op)], [' ']⟩
          (renderParts (ruleParts o' rest)) := by
      rw [ruleParts, renderParts_operand, List.flatMap_cons, List.append_assoc, ← ruleParts,
        ← List.append_assoc pre]
      rfl
    rw [hs, ih, List.flatMap_append]
    simp [hw, spaced]

/-- The rule as the evaluator reads it. -/
def rewrittenRule (first : Operand) (rest : List (Connective × Operand)) : List Char :=
  callText first.rewritten ++ rest.flatMap fun q => spaced q.1 ++ callText q.2.rewritten

theorem withTruthinessChars_normalRule (first : Operand) {rest : List (Connective × Operand)} (h : rest ≠ []) :
    withTruthinessChars (normalRule first rest) = rewrittenRule first rest := by
  rw [withTruthinessChars, outline_normalRule]
  exact joinPieces_rule rest first [] (fun _ h => absurd h List.not_mem_nil) (.inr h)

end FraudScreen.Expr
