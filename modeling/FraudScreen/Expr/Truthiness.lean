import FraudScreen.Expr.Outline

/-!
# Truth values of operands

Operands of `&&`, `||` and `!` count as true when they are non-zero. The evaluator wants booleans
there, so every such operand is wrapped in a call of `truthy`. Clauses are the stretches between
separators; only a clause with a connective has its operands wrapped.
-/
namespace FraudScreen.Expr

open Text

/-- The name of the function that turns a value into a truth value. -/
def truthyName : String := "truthy"

/-- An operand wrapped in a call of `truthy`, blanks left outside. A blank operand stays as it is. -/
def wrapOperand (operand : List Char) : List Char :=
  if (trim operand).isEmpty then operand
  else
    operand.takeWhile isBlank ++ truthyName.toList ++ '(' :: trim operand ++ ')' ::
      (operand.reverse.takeWhile isBlank).reverse

/-- A clause under way: the operands that a connective has ended, and the text since. -/
structure Clause where
  linked : List (List Char × Connective)
  current : List Char

def Clause.empty : Clause := ⟨[], []⟩

/-- The text of a clause, its operands wrapped if there is more than one. -/
def Clause.render (k : Clause) : List Char :=
  if k.linked.isEmpty then k.current
  else
    k.linked.flatMap (fun (operand, op) => wrapOperand operand ++ op.symbol) ++ wrapOperand k.current

/-- A rendered part: plain text, a connective, or a separator. -/
inductive Piece where
  | plain (cs : List Char)
  | link (op : Connective)
  | stop (c : Char)

/-- Joins rendered parts, the clause so far given. -/
def joinPieces (k : Clause) : List Piece → List Char
  | [] => k.render
  | .plain cs :: rest => joinPieces ⟨k.linked, k.current ++ cs⟩ rest
  | .link op :: rest => joinPieces ⟨k.linked ++ [(k.current, op)], []⟩ rest
  | .stop c :: rest => k.render ++ c :: joinPieces .empty rest

mutual

/-- A part with all operands inside it wrapped. -/
def Part.render : Part → Piece
  | .char c => .plain [c]
  | .text literal => .plain literal
  | .link op => .link op
  | .stop c => .stop c
  | .group body closed =>
    .plain ('(' :: joinPieces .empty (renderParts body) ++ (if closed then [')'] else []))
  | .not _ operand =>
    .plain ('!' :: truthyName.toList ++ '(' :: joinPieces .empty (renderParts operand) ++ [')'])

def renderParts : List Part → List Piece
  | [] => []
  | part :: rest => part.render :: renderParts rest

end

/-- Wraps the operands of all connectives and negations of an expression. -/
def withTruthinessChars (cs : List Char) : List Char :=
  joinPieces .empty (renderParts (outline cs))

/-- Wraps the operands of all connectives and negations of an expression. -/
def withTruthiness (expr : String) : String := String.ofList (withTruthinessChars expr.toList)

end FraudScreen.Expr
