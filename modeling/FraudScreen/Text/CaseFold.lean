import FraudScreen.Text.CaseTable
import FraudScreen.Text.CodeSet

/-!
# Simple case folding

Two characters are equal up to case when they have the same simple fold. A set is closed under this
relation by adding, with each member, its fold and everything that shares the fold.
-/
namespace FraudScreen.Text

open CaseTable

/-- All characters that differ from their simple fold, each with its fold. -/
def foldPairs : List (Nat × Nat) := fold.flatMap Run.pairs

/-- The set of all folds that members of `s` share with other characters. -/
def foldTargets (s : CodeSet) : CodeSet :=
  .ofList (foldPairs.filterMap fun (c, f) => if s.contains c || s.contains f then some f else none)

/-- The least set that holds `s` and is closed under equality up to case. -/
def closeUnderCase (s : CodeSet) : CodeSet :=
  let targets := foldTargets s
  let sources := foldPairs.filterMap fun (c, f) => if targets.contains f then some c else none
  s.union (targets.union (.ofList sources))

end FraudScreen.Text
