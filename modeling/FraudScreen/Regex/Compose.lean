import FraudScreen.Regex.Basic

/-!
# Putting expressions together

Expressions are kept in a plain form: sequences and alternatives are flat, neighbouring texts are one text,
alternatives that are all single characters or all sets are one set, and what all alternatives begin with
stands in front of them. The plain form matches what the parts match, in the same order of preference.
-/
namespace FraudScreen.Regex

open Text (CodeSet)

/-- One of the characters of a set. A single one is a text. -/
def oneOf (s : CodeSet) : Regex :=
  match s.bounds with
  | #[a, b] => if b = a + 1 then text [Char.ofNat a] else set s
  | _ => set s

/-- Puts an expression in front of others; a text joins a text. -/
def joinFront (r : Regex) (rest : List Regex) : List Regex :=
  match r, rest with
  | text cs, text ds :: more => text (cs ++ ds) :: more
  | r, rest => r :: rest

/-- Joins neighbouring texts. -/
def joinTexts (rs : List Regex) : List Regex := rs.foldr joinFront []

/-- The sequence of some factors. -/
def ofFactors : List Regex → Regex
  | [] => empty
  | [r] => r
  | r :: rest => seq r (ofFactors rest)

/-- All of the expressions in order. -/
def sequence (rs : List Regex) : Regex := ofFactors (joinTexts (rs.flatMap factors))

/-- The choice between some branches. -/
def ofBranches : List Regex → Regex
  | [] => set .empty
  | [r] => r
  | r :: rest => alt r (ofBranches rest)

/-- The number of factors that two sequences have in common at their starts. -/
def commonLength : List Regex → List Regex → Nat
  | a :: as, b :: bs => if a.same b then commonLength as bs + 1 else 0
  | _, _ => 0

/-- The factors of a sequence of at least two. -/
def proper? (r : Regex) : Option (List Regex) :=
  match r with
  | seq _ _ => some r.factors
  | _ => none

/-- The number of factors that all branches begin with, if all are sequences. -/
def sharedLength (rs : List Regex) : Nat :=
  match rs.mapM proper? with
  | some (first :: rest) => rest.foldl (fun n fs => min n (commonLength first fs)) first.length
  | _ => 0

/-- The character of a text of one. -/
def onlyChar? : Regex → Option Char
  | text [c] => some c
  | _ => none

/-- The members of a set. -/
def members? : Regex → Option CodeSet
  | set s => some s
  | _ => none

/-- The choice between flat branches, of which some may be sequences. Branches without what all begin with are
joined in turn, as long as there is fuel. -/
def choose : Nat → List Regex → Regex
  | 0, rs => ofBranches rs
  | fuel + 1, rs =>
    if rs.length < 2 then ofBranches rs
    else match rs.mapM onlyChar?, rs.mapM members? with
      | some cs, _ => oneOf (.ofList (cs.map (·.toNat)))
      | none, some sets => oneOf (CodeSet.unions sets)
      | none, none =>
        match sharedLength rs, rs with
        | n + 1, first :: _ =>
          let tails := rs.map fun r => sequence (r.factors.drop (n + 1))
          sequence (first.factors.take (n + 1) ++ [choose fuel (tails.flatMap branches)])
        | _, _ => ofBranches rs

/-- One of the expressions, an earlier one rather than a later. -/
def alternatives (rs : List Regex) : Regex :=
  let flat := rs.flatMap branches
  choose (flat.foldl (· + nodeCount ·) 0) flat

/-- From `least` to `most` times the same. What matches nothing but the empty text is asked for once at most. -/
def repeated (r : Regex) (least : Nat) (most : Option Nat) (greedy : Bool) : Regex :=
  let (least, most) := if r.isWidthless then (min least 1, some (min (most.getD 1) 1)) else (least, most)
  if most = some 0 then empty
  else if least = 1 ∧ most = some 1 then r
  else many r least most greedy

end FraudScreen.Regex
