import FraudScreen.Decimal.Layout
import FraudScreen.Text.Quoted

/-!
# Values

What a rule expression computes with. Whole numbers and floating-point numbers are different types
and never equal to each other; tuples compare element by element.
-/
namespace FraudScreen.Expr

/-- A value of the expression language. -/
inductive Value where
  | text (s : String)
  | float (x : Float)
  | int (n : Int64)
  | bool (b : Bool)
  | tuple (items : List Value)
  | empty

/-- The type of a value. -/
inductive ValueType where
  | text | float | int | bool | tuple | empty
deriving DecidableEq, Repr

namespace Value

def type : Value → ValueType
  | text _ => .text
  | float _ => .float
  | int _ => .int
  | bool _ => .bool
  | tuple _ => .tuple
  | empty => .empty

mutual

/-- Equality of values: of one type and the same content. What is no number equals nothing. -/
def same : Value → Value → Bool
  | text a, text b => a == b
  | float a, float b => a == b
  | int a, int b => a == b
  | bool a, bool b => a == b
  | tuple a, tuple b => sameItems a b
  | empty, empty => true
  | _, _ => false

def sameItems : List Value → List Value → Bool
  | [], [] => true
  | a :: as, b :: bs => same a b && sameItems as bs
  | _, _ => false

end

mutual

/-- A value as a user reads it. -/
def display : Value → String
  | text s => "\"" ++ s ++ "\""
  | float x => Decimal.write x
  | int n => toString n.toInt
  | bool b => if b then "true" else "false"
  | tuple items => "(" ++ displayItems items ++ ")"
  | empty => "()"

def displayItems : List Value → String
  | [] => ""
  | [v] => display v
  | v :: w :: vs => display v ++ ", " ++ displayItems (w :: vs)

end

mutual

/-- A value with its type, as evaluation errors show it. -/
def describe : Value → String
  | text s => "String(" ++ Text.quote s ++ ")"
  | float x => "Float(" ++ Decimal.writeExplicit x ++ ")"
  | int n => "Int(" ++ toString n.toInt ++ ")"
  | bool b => "Boolean(" ++ (if b then "true" else "false") ++ ")"
  | tuple items => "Tuple([" ++ describeItems items ++ "])"
  | empty => "Empty"

def describeItems : List Value → String
  | [] => ""
  | [v] => describe v
  | v :: w :: vs => describe v ++ ", " ++ describeItems (w :: vs)

end

/-- The number a numeric value denotes in floating point, rounded if it is a large integer. -/
def number? : Value → Option Float
  | float x => some x
  | int n => some (Float.ofInt n.toInt)
  | _ => none

end Value

namespace ValueType

/-- The name of a type as the language itself gives it. -/
def keyword : ValueType → String
  | text => "string"
  | float => "float"
  | int => "int"
  | bool => "boolean"
  | tuple => "tuple"
  | empty => "empty"

/-- The name of a type in messages. -/
def label : ValueType → String
  | text => "String"
  | float => "Float"
  | int => "Int"
  | bool => "Boolean"
  | tuple => "Tuple"
  | empty => "Empty"

end ValueType

end FraudScreen.Expr
