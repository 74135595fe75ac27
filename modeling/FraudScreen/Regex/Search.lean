import FraudScreen.Regex.Walk

/-!
# Searching

The first match of an expression in a text. If all repetitions are of single characters, the ends of the
matches from a place follow from the parts of the expression; any other expression is walked through.
-/
namespace FraudScreen.Regex

open Text (CodeSet)

/-! ## Repetitions of single characters -/

/-- The characters of an expression that matches one. -/
def characters? : Regex → Option CodeSet
  | text [c] => some (.single c.toNat)
  | set s => some s
  | _ => none

/-- All repetitions are of single characters. -/
def isFlat : Regex → Bool
  | group r => r.isFlat
  | seq a b => a.isFlat && b.isFlat
  | alt a b => a.isFlat && b.isFlat
  | many r _ _ _ => r.characters?.isSome
  | _ => true

/-- How many characters from the place `i` on are in a set, up to `room`. -/
def runLength (t : Array Char) (s : CodeSet) (i : Nat) : Nat → Nat
  | 0 => 0
  | room + 1 => if t[i]?.any (s.contains ·.toNat) then runLength t s (i + 1) room + 1 else 0

/-- The ends of runs of `least` to `most` characters of a set from `i`. -/
def runEnds (t : Array Char) (s : CodeSet) (least : Nat) (most : Option Nat) (greedy : Bool)
    (i : Nat) : List Nat :=
  let length := runLength t s i (min (t.size - i) (most.getD (t.size - i)))
  if length < least then []
  else
    let ends := (List.range (length - least + 1)).map (i + least + ·)
    if greedy then ends.reverse else ends

/-! ## Ends of matches -/

/-- The members of a list that are not among the bits of `seen`, in order and each once. -/
def unseen (seen : Nat) : List Nat → List Nat
  | [] => []
  | x :: xs => if seen.testBit x then unseen seen xs else x :: unseen (seen ||| 1 <<< x) xs

/-- The members of a list in order, each once. -/
def firsts (xs : List Nat) : List Nat := unseen 0 xs

/-- The characters `cs` stand in the text from the place `i` on. -/
def standsAt (t : Array Char) (i : Nat) : List Char → Bool
  | [] => true
  | c :: cs => t[i]? == some c && standsAt t (i + 1) cs

/-- The places where a match of a flat expression that begins at a place of the text can end, the preferred one
first. -/
def ends (t : Array Char) : Regex → Nat → List Nat
  | empty, i => [i]
  | text cs, i => if standsAt t i cs then [i + cs.length] else []
  | set s, i => if t[i]?.any (s.contains ·.toNat) then [i + 1] else []
  | look l, i => if l.holds t i then [i] else []
  | group r, i => ends t r i
  | seq a b, i => firsts ((ends t a i).flatMap (ends t b))
  | alt a b, i => firsts (ends t a i ++ ends t b i)
  | many r least most greedy, i => runEnds t (r.characters?.getD .empty) least most greedy i

/-! ## The first match -/

/-- The first match in a text: the one that begins earliest, and of those the preferred one. -/
def find? (r : Regex) (t : Array Char) : Option (Nat × Nat) :=
  if r.isFlat then (List.range (t.size + 1)).findSome? fun i => (ends t r i).head?.map (i, ·)
  else walk? r t

/-- The text holds a match. -/
def isMatch (r : Regex) (t : Array Char) : Bool := (r.find? t).isSome

end FraudScreen.Regex
