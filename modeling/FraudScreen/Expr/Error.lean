import FraudScreen.Expr.Value

/-!
# Faults of expressions

Why a text is no expression, and why an expression has no value. Each cause keeps the data it is
about; the wording is in one function for each kind.
-/
namespace FraudScreen.Expr

/-- Why a text is not an expression. -/
inductive SyntaxError where
  /-- A backslash in a text literal before a character other than a quote or a backslash. -/
  | illegalEscape (next : Option Char)
  | unclosedText
  | unclosedComment
  /-- Half of a two-character operator, with the fragment that follows it. -/
  | halfOperator (c : Char) (next : Option String)
  | unmatchedOpen
  | unmatchedClose
  /-- Two operands side by side. -/
  | operandAfterOperand
  | precedence
  /-- A group beside something that takes no operand on that side. -/
  | groupBesideOperand
deriving DecidableEq, Repr

def SyntaxError.message : SyntaxError → String
  | illegalEscape (some c) => "Illegal escape sequence: \\" ++ c.toString
  | illegalEscape none => "Illegal escape sequence: \\"
  | unclosedText => "Found an unmatched double quote '\"'"
  | unclosedComment => "Error: unmatched inline comment"
  | halfOperator c (some next) =>
    "Found a partial token '" ++ c.toString ++ "' that should not be followed by '" ++ next ++ "'."
  | halfOperator c none =>
    "Found a partial token '" ++ c.toString ++ "' that should be followed by another partial token."
  | unmatchedOpen => "Found an unmatched opening parenthesis '('."
  | unmatchedClose => "Found an unmatched closing parenthesis ')'."
  | operandAfterOperand => "Tried to append a node to a leaf node."
  | precedence => "Tried to append a node to another node with higher precedence."
  | groupBesideOperand =>
    "Found an opening parenthesis that is preceded by something that does not take any arguments" ++
      " on the right, or found a closing parenthesis that is succeeded by something that does not" ++
      " take any arguments on the left."

/-- The operations on whole numbers that can leave their range. -/
inductive IntOperation where
  | add | sub | mul | div | rem
deriving DecidableEq, Repr

/-- What an operation wanted in place of the value it got. -/
inductive Expectation where
  | oneType (t : ValueType)
  | number
  | numberOrText
  | tupleOf (size : Nat)
  | tupleOfRange (least most : Nat)
  | oneOf (types : List ValueType)
deriving DecidableEq, Repr

/-- Why an expression has no value. -/
inductive EvalError where
  | argumentCount (expected actual : Nat)
  | unexpected (wanted : Expectation) (got : Value)
  | mixedSum (types : List ValueType)
  | unboundVariable (name : String)
  | unboundFunction (name : String)
  | overflow (op : IntOperation) (a b : Int64)
  | negationOverflow (a : Int64)
  | outOfBounds
  /-- An assignment, which rules may not make. -/
  | assignment

def Expectation.phrase : Expectation → String
  | oneType t => "Expected a Value::" ++ t.label
  | number => "Expected a Value::Float or Value::Int"
  | numberOrText => "Expected a Value::Number or a Value::String"
  | tupleOf n => "Expected a Value::Tuple of length " ++ toString n
  | tupleOfRange lo hi => "Expected a Value::Tuple of length " ++ toString lo ++ " to " ++ toString hi
  | oneOf types => "Expected one of [" ++ ", ".intercalate (types.map ValueType.label) ++ "]"

def IntOperation.phrase (op : IntOperation) (a b : Int64) : String :=
  let between (verb symbol : String) :=
    "Error " ++ verb ++ " " ++ toString a.toInt ++ " " ++ symbol ++ " " ++ toString b.toInt
  match op with
  | add => between "adding" "+"
  | sub => between "subtracting" "-"
  | mul => between "multiplying" "*"
  | div => between "dividing" "/"
  | rem => between "modulating" "%"

def EvalError.message : EvalError → String
  | argumentCount expected actual =>
    "An operator expected " ++ toString expected ++ " arguments, but got " ++ toString actual ++ "."
  | unexpected wanted got => wanted.phrase ++ ", but got " ++ got.describe ++ "."
  | mixedSum types =>
    "The operator Add was called with a wrong combination of types: [" ++
      ", ".intercalate (types.map ValueType.label) ++ "]"
  | unboundVariable name =>
    "Variable identifier is not bound to anything by context: " ++ Text.quote name ++ "."
  | unboundFunction name =>
    "Function identifier is not bound to anything by context: " ++ Text.quote name ++ "."
  | overflow op a b => op.phrase a b
  | negationOverflow a => "Error negating -" ++ toString a.toInt
  | outOfBounds => "Tried to access a tuple or string at an invalid index"
  | assignment => "Cannot manipulate context"

/-- How an evaluation can end without a value: with an error, or by a crash of the evaluator, which
happens when a text is cut inside a character. -/
inductive Failure where
  | error (cause : EvalError)
  | crash

/-- A computation of the evaluator. -/
abbrev Eval (α : Type) := Except Failure α

/-- Ends an evaluation with an error. -/
def fail {α : Type} (cause : EvalError) : Eval α := .error (.error cause)

end FraudScreen.Expr
