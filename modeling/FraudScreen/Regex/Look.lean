import FraudScreen.Regex.Property.Edition

/-!
# Conditions on places

A place lies before a character of a text or at its end. Conditions ask whether it is an edge of the text, of
a line or of a word. Lines end with a line feed, or else with a line feed, a carriage return or both together;
words consist of the word characters of all scripts, or else of the ASCII ones only.
-/
namespace FraudScreen.Regex

/-- Where a place lies to the words around it. A half asks for one side only. -/
inductive WordEdge where
  | boundary
  | noBoundary
  | start
  | stop
  | startHalf
  | stopHalf
deriving DecidableEq, Repr

/-- A condition on a place. -/
inductive Look where
  | textStart
  | textEnd
  | lineStart (carriageReturns : Bool)
  | lineEnd (carriageReturns : Bool)
  | word (e : WordEdge) (asciiOnly : Bool)
deriving DecidableEq, Repr

/-- A character of a word, of any script or an ASCII one. -/
def isWord (asciiOnly : Bool) (c : Char) : Bool :=
  isWordCharacter c && (!asciiOnly || c.toNat < 128)

/-- The character before the place `i` is one of a word. -/
def wordBefore (asciiOnly : Bool) (t : Array Char) (i : Nat) : Bool :=
  i != 0 && t[i - 1]?.any (isWord asciiOnly)

/-- The character after the place `i` is one of a word. -/
def wordAfter (asciiOnly : Bool) (t : Array Char) (i : Nat) : Bool := t[i]?.any (isWord asciiOnly)

/-- What an edge of a word asks of the characters before and after it. -/
def WordEdge.admits (before after : Bool) : WordEdge → Bool
  | boundary => before != after
  | noBoundary => before == after
  | start => !before && after
  | stop => before && !after
  | startHalf => !before
  | stopHalf => !after

/-- The character before the place `i`. -/
def charBefore? (t : Array Char) (i : Nat) : Option Char := if i = 0 then none else t[i - 1]?

/-- The condition holds at the place `i` of a text. A carriage return and the line feed after it are one end
of a line, between which no place is a start or an end. -/
def Look.holds (t : Array Char) (i : Nat) : Look → Bool
  | textStart => i == 0
  | textEnd => i == t.size
  | lineStart false => i == 0 || charBefore? t i == some '\n'
  | lineStart true =>
    i == 0 || charBefore? t i == some '\n' || (charBefore? t i == some '\r' && t[i]? != some '\n')
  | lineEnd false => i == t.size || t[i]? == some '\n'
  | lineEnd true =>
    i == t.size || t[i]? == some '\r' || (t[i]? == some '\n' && charBefore? t i != some '\r')
  | word e asciiOnly => e.admits (wordBefore asciiOnly t i) (wordAfter asciiOnly t i)

end FraudScreen.Regex
