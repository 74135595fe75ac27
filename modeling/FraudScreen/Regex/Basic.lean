import FraudScreen.Regex.Look
import FraudScreen.Text.Bytes

/-!
# Regular expressions

What a pattern says once its text is read: characters and sets of them, conditions on places, and their
combinations. Of the ways in which an expression can match, the earlier alternative is preferred, and of a
repetition the longer one if it is greedy, the shorter one if not.
-/
namespace FraudScreen

/-- A regular expression. -/
inductive Regex where
  | empty
  /-- The characters of a text one after the other. -/
  | text (cs : List Char)
  | set (s : Text.CodeSet)
  | look (l : Regex.Look)
  /-- A numbered group. It matches what `r` matches. -/
  | group (r : Regex)
  | seq (a b : Regex)
  | alt (a b : Regex)
  /-- From `least` to `most` times `r`, without upper limit if `most` is `none`. -/
  | many (r : Regex) (least : Nat) (most : Option Nat) (greedy : Bool)

namespace Regex

open Text (CodeSet)

/-! ## Lengths -/

/-- The sum of two lengths that may be unknown. -/
def addLengths (a b : Option Nat) : Option Nat := do return (← a) + (← b)

/-- The number of bytes of the code point `n`. -/
def byteCount (n : Nat) : Nat := if n < 0x80 then 1 else if n < 0x800 then 2 else if n < 0x10000 then 3 else 4

/-- The number of bytes of the shortest match, if a match can be told to exist. -/
def leastBytes : Regex → Option Nat
  | empty | look _ => some 0
  | text cs => some (Text.byteLength cs)
  | set s => s.bounds[0]?.map byteCount
  | group r => r.leastBytes
  | seq a b => addLengths a.leastBytes b.leastBytes
  | alt a b => do return min (← a.leastBytes) (← b.leastBytes)
  | many r least _ _ => r.leastBytes.map (· * least)

/-- The number of bytes of the longest match, if there is one. -/
def mostBytes : Regex → Option Nat
  | empty | look _ => some 0
  | text cs => some (Text.byteLength cs)
  | set s => s.bounds.back?.map fun n => byteCount (n - 1)
  | group r => r.mostBytes
  | seq a b => addLengths a.mostBytes b.mostBytes
  | alt a b => do return max (← a.mostBytes) (← b.mostBytes)
  | many r _ most _ => do return (← r.mostBytes) * (← most)

/-- A match may be empty, as far as the lengths tell. -/
def isNullable (r : Regex) : Bool := !r.leastBytes.any (0 < ·)

/-- The expression matches nothing but the empty text. -/
def isWidthless (r : Regex) : Bool := r.mostBytes == some 0

/-- A match can only begin at the start of the text. -/
def startsText : Regex → Bool
  | look .textStart => true
  | group r => r.startsText
  | seq a b => a.startsText || (a.isWidthless && b.startsText)
  | alt a b => a.startsText && b.startsText
  | many r least _ _ => 0 < least && r.startsText
  | _ => false

/-- A match can only end at the end of the text, and the expression matches nothing but the empty text. -/
def ending : Regex → Bool × Bool
  | empty => (false, true)
  | look l => (l == .textEnd, true)
  | group r => r.ending
  | seq a b =>
    let (atEnd, widthless) := b.ending
    (atEnd || (widthless && a.ending.1), widthless && a.isWidthless)
  | alt a b => (a.ending.1 && b.ending.1, (alt a b).isWidthless)
  | many r least most greedy => (0 < least && r.ending.1, (many r least most greedy).isWidthless)
  | r => (false, r.isWidthless)

/-- A match can only end at the end of the text. -/
def endsText (r : Regex) : Bool := r.ending.1

/-! ## Parts -/

/-- The number of nodes of the expression. -/
def nodeCount : Regex → Nat
  | group r | many r _ _ _ => r.nodeCount + 1
  | seq a b | alt a b => a.nodeCount + b.nodeCount + 1
  | _ => 1

/-- The expressions that a sequence consists of; nothing else is one. -/
def factors : Regex → List Regex
  | seq a b => a :: b.factors
  | empty => []
  | r => [r]

/-- The alternatives that an expression consists of. -/
def branches : Regex → List Regex
  | alt a b => a :: b.branches
  | r => [r]

/-- The same expression. Two numbered groups are never the same. -/
def same : Regex → Regex → Bool
  | empty, empty => true
  | text cs, text ds => cs == ds
  | set s, set u => s.bounds == u.bounds
  | look l, look m => l == m
  | seq a b, seq c d => a.same c && b.same d
  | alt a b, alt c d => a.same c && b.same d
  | many r l m g, many r' l' m' g' => r.same r' && l == l' && m == m' && g == g'
  | _, _ => false

end Regex

end FraudScreen
