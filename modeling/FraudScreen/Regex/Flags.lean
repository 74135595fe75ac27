import FraudScreen.Regex.Class
import FraudScreen.Regex.Compose
import FraudScreen.Text.Blank

/-!
# Flags

Flags say how the rest of the enclosing group is read. Without Unicode, classes are about ASCII characters only,
and everything that would match other characters than ASCII ones by a class is refused.
-/
namespace FraudScreen.Regex

open Text (CodeSet)

/-- How the text at hand is read. -/
structure Flags where
  ignoreCase : Bool
  multiLine : Bool
  dotAll : Bool
  /-- White space and comments do not count. -/
  verbose : Bool
  /-- Repetitions are greedy if they are marked as not, and the reverse. -/
  swapGreed : Bool
  /-- Lines end with carriage returns too. -/
  carriageReturns : Bool
  /-- Classes are about ASCII characters only. -/
  asciiOnly : Bool

namespace Flags

/-- The flags at the start: none is set. -/
def initial : Flags := ⟨false, false, false, false, false, false, false⟩

/-- Sets or clears a flag. -/
def set? (f : Flags) (c : Char) (on : Bool) : Option Flags :=
  match c with
  | 'i' => some { f with ignoreCase := on }
  | 'm' => some { f with multiLine := on }
  | 's' => some { f with dotAll := on }
  | 'x' => some { f with verbose := on }
  | 'U' => some { f with swapGreed := on }
  | 'R' => some { f with carriageReturns := on }
  | 'u' => some { f with asciiOnly := !on }
  | _ => none

/-! ## What does not count -/

/-- Passes over white space and comments. -/
def skipComments (inComment : Bool) : List Char → List Char
  | [] => []
  | c :: rest =>
    if inComment then skipComments (c != '\n') rest
    else if Text.isBlank c then skipComments false rest
    else if c == '#' then skipComments true rest
    else c :: rest

/-- Passes over what does not count. -/
def skip (f : Flags) (cs : List Char) : List Char := if f.verbose then skipComments false cs else cs

/-- The first character that is neither white space nor the first number sign, which begins a comment. -/
def visible? (inComment : Bool) : List Char → Option Char
  | [] => none
  | c :: rest =>
    if Text.isBlank c then visible? inComment rest
    else if c == '#' && !inComment then visible? true rest
    else some c

/-- The next character, as far as it can be told without passing over it: with comments it is the first one
that shows, even inside a comment. -/
def peek (f : Flags) (cs : List Char) : Option Char :=
  if f.verbose then (visible? false cs).or cs.head? else cs.head?

/-! ## Sets -/

/-- The set with the other case of each ASCII letter in it. -/
def closeUnderAsciiCase (s : CodeSet) : CodeSet :=
  s.union (.ofList ((List.range 26).flatMap fun i =>
    if s.contains (65 + i) || s.contains (97 + i) then [65 + i, 97 + i] else []))

/-- The set without regard to case, if the flags say so. -/
def fold (f : Flags) (s : CodeSet) : CodeSet :=
  if !f.ignoreCase then s else if f.asciiOnly then closeUnderAsciiCase s else Text.closeUnderCase s

/-- The set of a class under the flags. What is negated is what the class means without regard to case. -/
def close? (f : Flags) (negated : Bool) (s : CodeSet) : Option CodeSet :=
  if !negated then some (f.fold s) else if f.asciiOnly then none else some (negate (f.fold s))

/-- The class of one letter under the flags. -/
def shorthand? (f : Flags) (negated : Bool) (h : Shorthand) : Option CodeSet :=
  let s := h.members f.asciiOnly
  if !negated then some s else if f.asciiOnly then none else some (negate s)

/-- The characters that a point stands for. -/
def point? (f : Flags) : Option CodeSet :=
  if f.asciiOnly then none
  else if f.dotAll then some scalars
  else some (negate (if f.carriageReturns then .ofList [10, 13] else .single 10))

/-- What a literal character stands for. -/
def literal (f : Flags) (c : Char) : Regex :=
  if f.ignoreCase ∧ (!f.asciiOnly ∨ c.toNat < 128) then oneOf (f.fold (.single c.toNat)) else text [c]

/-- The places where a line or the text starts. -/
def start (f : Flags) : Look := if f.multiLine then .lineStart f.carriageReturns else .textStart

/-- The places where a line or the text ends. -/
def stop (f : Flags) : Look := if f.multiLine then .lineEnd f.carriageReturns else .textEnd

end Flags

end FraudScreen.Regex
