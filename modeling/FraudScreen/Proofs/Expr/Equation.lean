import FraudScreen.Proofs.Expr.Connectives

/-!
# Equations between operands

Two operands in parentheses with a word for equality or inequality between them. Each operand stands alone, so the
tree has the trees of the operands below the operation (`compile_equated`), and its value depends on the values of
the operands only (`eval_equated`).
-/
namespace FraudScreen.Expr

open Text

/-- Equality and inequality. -/
inductive Equation where
  | eq | neq

namespace Equation

/-- The words of the dialect. -/
def words : Equation → List String
  | eq => ["==", "="]
  | neq => ["<>", "!="]

def symbol : Equation → List Char
  | eq => ['=', '=']
  | neq => ['!', '=']

def sign : Equation → Sign
  | eq => .eq
  | neq => .neq

def op : Equation → Op
  | eq => .eq
  | neq => .neq

/-- Whether the equation is true of operands that are equal or not. -/
def holds : Equation → Bool → Bool
  | eq, same => same
  | neq, same => !same

end Equation

/-- Two operands with a word between them. -/
def equated (x word y : String) : String := "(" ++ x ++ ") " ++ word ++ " (" ++ y ++ ")"

/-! ## In the evaluator's syntax -/

/-- The symbol of an equation between blanks. -/
def spacedEquation (w : Equation) : List Char := ' ' :: (w.symbol ++ [' '])

theorem normalizeAfter_equation (w : Equation) {word : String} (hw : word ∈ w.words) (last : Option Char)
    (more : List Char) :
    normalizeAfter last (' ' :: (word.toList ++ ' ' :: more)) =
      spacedEquation w ++ normalizeAfter (some ' ') more := by
  rw [normalizeAfter_blank]
  cases w with
  | eq =>
    obtain rfl | rfl : word = "==" ∨ word = "=" := by simpa [Equation.words] using hw
    · have h : normalizeStep (some ' ') '=' ('=' :: ' ' :: more) = (['=', '='], ' ' :: more) := rfl
      change ' ' :: normalizeAfter (some ' ') ('=' :: '=' :: ' ' :: more) = _
      rw [normalizeAfter_of_step h rfl, normalizeAfter_blank]
      rfl
    · have h : normalizeStep (some ' ') '=' (' ' :: more) = (['=', '='], ' ' :: more) := rfl
      change ' ' :: normalizeAfter (some ' ') ('=' :: ' ' :: more) = _
      rw [normalizeAfter_of_step h rfl, normalizeAfter_blank]
      rfl
  | neq =>
    obtain rfl | rfl : word = "<>" ∨ word = "!=" := by simpa [Equation.words] using hw
    · have h : normalizeStep (some ' ') '<' ('>' :: ' ' :: more) = (['!', '='], ' ' :: more) := rfl
      change ' ' :: normalizeAfter (some ' ') ('<' :: '>' :: ' ' :: more) = _
      rw [normalizeAfter_of_step h rfl, normalizeAfter_blank]
      rfl
    · have hbang : normalizeStep (some ' ') '!' ('=' :: ' ' :: more) = (['!'], '=' :: ' ' :: more) := rfl
      have hequals : normalizeStep (some '!') '=' (' ' :: more) = (['='], ' ' :: more) := rfl
      change ' ' :: normalizeAfter (some ' ') ('!' :: '=' :: ' ' :: more) = _
      rw [normalizeAfter_of_step hbang (a := '!') rfl, normalizeAfter_of_step hequals rfl, normalizeAfter_blank]
      rfl

/-- An equation between operands in the evaluator's syntax. -/
def normalEquation (w : Equation) (o p : Operand) : List Char :=
  parenthesize false o.normal ++ (spacedEquation w ++ parenthesize false p.normal)

theorem normalizeAfter_equated (w : Equation) {word : String} (hw : word ∈ w.words) {o p : Operand}
    (ho : o.negated = false) (hp : p.negated = false) :
    normalizeAfter none (equated o.text word p.text).toList = normalEquation w o p := by
  have hsource : (equated o.text word p.text).toList =
      o.source.toList ++ (' ' :: (word.toList ++ ' ' :: (p.source.toList ++ []))) := by
    simp [equated, Operand.source, ho, hp]
  rw [hsource, normalizeAfter_source, normalizeAfter_equation w hw, normalizeAfter_source, ho, hp, normalizeAfter,
    List.append_nil]
  rfl

/-! ## The outline -/

/-- The symbol of an equation has no meaning for the outline. -/
theorem Outlines.spacedEquation {more : List Char} {ps : List Part} (hm : Outlines more ps) (w : Equation) :
    Outlines (spacedEquation w ++ more) ((spacedEquation w).map .char ++ ps) := by
  obtain ⟨ls, hp, rfl⟩ := hm
  have hchar : ∀ c ∈ [' ', '=', '!'], Loose.Whole (some (.char c)) := by simp [Loose.Whole, Part.Whole]
  have hs := hchar ' ' (by simp)
  have he := hchar '=' (by simp)
  have hb := hchar '!' (by simp)
  cases w with
  | eq =>
    have hn : marksOf (' ' :: '=' :: '=' :: ' ' :: more) =
        .char ' ' :: .char '=' :: .char '=' :: .char ' ' :: marksOf more := by
      have h : ∀ rest, nextMark '=' rest = (.char '=', rest) := fun _ => rfl
      rw [marksOf_blank, marksOf_of_nextMark (h _), marksOf_of_nextMark (h _), marksOf_blank]
    exact ⟨_, hn ▸ Paired.mark rfl hs (.mark rfl he (.mark rfl he (.mark rfl hs hp))), rfl⟩
  | neq =>
    have hn : marksOf (' ' :: '!' :: '=' :: ' ' :: more) =
        .char ' ' :: .char '!' :: .char '=' :: .char ' ' :: marksOf more := by
      have hb : nextMark '!' ('=' :: ' ' :: more) = (.char '!', '=' :: ' ' :: more) := rfl
      have he : nextMark '=' (' ' :: more) = (.char '=', ' ' :: more) := rfl
      rw [marksOf_blank, marksOf_of_nextMark hb, marksOf_of_nextMark he, marksOf_blank]
    exact ⟨_, hn ▸ Paired.mark rfl hs (.mark rfl hb (.mark rfl he (.mark rfl hs hp))), rfl⟩

theorem outline_normalEquation (w : Equation) (o p : Operand) :
    outline (normalEquation w o p) =
      operandParts false o.normal ++ ((spacedEquation w).map .char ++ operandParts false p.normal) := by
  have hp := Outlines.nil.operand false p.standsAlone_normal
  rw [List.append_nil, List.append_nil] at hp
  exact ((hp.spacedEquation w).operand false o.standsAlone_normal).outline

/-- An equation has no operands to be wrapped but those inside its operands. -/
theorem withTruthinessChars_normalEquation (w : Equation) {o p : Operand} (ho : o.negated = false)
    (hp : p.negated = false) :
    withTruthinessChars (normalEquation w o p) = o.rewritten ++ (spacedEquation w ++ p.rewritten) := by
  rw [withTruthinessChars, outline_normalEquation, Operand.rewritten, Operand.rewritten, ho, hp]
  cases w <;>
    simp [operandParts, operandText, spacedEquation, Equation.symbol, renderParts, Part.render, joinPieces,
      Clause.render, Clause.empty, withTruthinessChars]

/-! ## The tree -/

/-- The symbol of an equation between blanks gives its sign. -/
theorem Spells.spacedEquation (w : Equation) :
    ∃ fs, Spells (FraudScreen.Expr.spacedEquation w) fs [.sign w.sign] := by
  refine ⟨.blank :: (w.symbol.map .mark ++ [.blank]), fun done _ more => ?_, ?_, fun more => ?_⟩
  · rw [FraudScreen.Expr.spacedEquation, List.cons_append, readFragments_blank]
    cases w with
    | eq =>
      change readFragments _ ('=' :: '=' :: ' ' :: more) = _
      rw [readFragments_mark (by decide) (by decide) (by decide),
        readFragments_mark (by decide) (by decide) (by decide), readFragments_blank]
      rfl
    | neq =>
      change readFragments _ ('!' :: '=' :: ' ' :: more) = _
      rw [readFragments_mark (by decide) (by decide) (by decide),
        readFragments_mark (by decide) (by decide) (by decide), readFragments_blank]
      rfl
  · cases w <;> trivial
  · cases w with
    | eq =>
      change tokensOf (.blank :: .mark '=' :: .mark '=' :: .blank :: more) = _
      rw [tokensOf, tokensOf_mark _ rfl, tokensOf]
      rfl
    | neq =>
      change tokensOf (.blank :: .mark '!' :: .mark '=' :: .blank :: more) = _
      rw [tokensOf, tokensOf_mark _ rfl, tokensOf]
      rfl

/-- The tokens of an equation between two groups. -/
def equationTokens (w : Equation) (ts us : List Token) : List Token :=
  .sign .opening :: (ts ++ .sign .closing :: .sign w.sign :: .sign .opening :: (us ++ [.sign .closing]))

/-- The tree of an equation. -/
def equationTree (w : Equation) (n m : Node) : Node := .mk .group [.mk w.op [n, m]]

theorem ofTokens_equation (w : Equation) {ts us : List Token} {n m : Node} (hn : Node.ofTokens ts = .ok n)
    (hm : Node.ofTokens us = .ok m) : Node.ofTokens (equationTokens w ts us) = .ok (equationTree w n m) := by
  obtain ⟨ns, rfl⟩ := eq_group (isGroup_of_ofTokens hn)
  obtain ⟨ms, rfl⟩ := eq_group (isGroup_of_ofTokens hm)
  have hfirst : addNode (.mk .group ns) [.emptyGroup] = .ok [.mk .group [.mk .group ns]] := rfl
  have hsign : ∀ next, addToken true (.sign w.sign) next [.mk .group [.mk .group ns]] =
      .ok [.mk .group [.mk w.op [.mk .group ns]]] := by
    cases w <;> exact fun _ => rfl
  have hsecond : addNode (.mk .group ms) [.mk .group [.mk w.op [.mk .group ns]]] =
      .ok [equationTree w (.mk .group ns) (.mk .group ms)] := by
    cases w <;> rfl
  have hgroup := addTokens_group hm (Token.sign w.sign).endsOperand (.mk .group [.mk w.op [.mk .group ns]]) [] []
  rw [hsecond] at hgroup
  rw [Node.ofTokens, equationTokens, addTokens_group hn, hfirst, ok_bind, addTokens, hsign, ok_bind, hgroup]
  rfl

/-- **Operands with an equation between them** compile to a tree that compares their values. -/
theorem compile_equated (w : Equation) {word : String} (hw : word ∈ w.words) {x y : String} {n m : Node}
    (hx : standsAlone .dialect x.toList) (hn : compile x = .ok n) (hy : standsAlone .dialect y.toList)
    (hm : compile y = .ok m) : compile (equated x word y) = .ok (equationTree w n m) := by
  let o : Operand := ⟨false, x, n, hx, hn⟩
  let p : Operand := ⟨false, y, m, hy, hm⟩
  obtain ⟨fs, ts, hfs, hts, hnode⟩ := o.tokens_of_compiles
  obtain ⟨gs, us, hgs, hus, hnode'⟩ := p.tokens_of_compiles
  obtain ⟨ws, hws⟩ := Spells.spacedEquation w
  have hfirst := Spells.parenthesized (standsAlone_withTruthiness o.standsAlone_normal) hfs hts
  have hsecond := Spells.parenthesized (standsAlone_withTruthiness p.standsAlone_normal) hgs hus
  have htokens : tokenize (o.rewritten ++ (spacedEquation w ++ p.rewritten)) = .ok (equationTokens w ts us) := by
    refine (hfirst.append (hws.append hsecond)).tokenize.trans (congrArg Except.ok ?_)
    simp [equationTokens]
  have hnormal : normalizeAfter none (equated x word y).toList = normalEquation w o p :=
    normalizeAfter_equated w hw (o := o) (p := p) rfl rfl
  rw [compile, Node.parse, withTruthiness, normalize, String.toList_ofList, String.toList_ofList, hnormal,
    withTruthinessChars_normalEquation w rfl rfl, htokens]
  exact ofTokens_equation w hnode hnode'

theorem eval_equationTree (w : Equation) (n m : Node) (b : Bindings) :
    (equationTree w n m).eval b = (do
      let v ← n.eval b
      let u ← m.eval b
      return .bool (w.holds (v.same u))) := by
  rw [equationTree, eval_group, Node.eval, evalAll, evalAll, evalAll]
  cases n.eval b with
  | error e => rfl
  | ok v =>
    cases m.eval b with
    | error e => rfl
    | ok u => cases w <;> rfl

end FraudScreen.Expr
