/-!
# Sets of code points

A set is an inversion list: ascending bounds at which membership switches, on at the first bound,
off at the second, and so on. The code point `n` belongs to the set when an odd number of bounds are
at most `n`. Boolean combinations of two sets are one merge of their bounds.
-/
namespace FraudScreen.Text

/-- A set of code points, given by the ascending bounds at which membership switches. -/
structure CodeSet where
  bounds : Array Nat

namespace CodeSet

/-- The number of bounds at most `n`, known to lie between `lo` and `hi`, found by bisection. -/
def boundsUpTo (bounds : Array Nat) (n : Nat) : Nat → Nat → Nat → Nat
  | 0, lo, _ => lo
  | fuel + 1, lo, hi =>
    if lo < hi then
      let mid := (lo + hi) / 2
      if bounds[mid]?.any (· ≤ n) then boundsUpTo bounds n fuel (mid + 1) hi
      else boundsUpTo bounds n fuel lo mid
    else lo

/-- Membership; bisection needs at most one step for each bit of the number of bounds. -/
def contains (s : CodeSet) (n : Nat) : Bool :=
  boundsUpTo s.bounds n (s.bounds.size.log2 + 2) 0 s.bounds.size % 2 == 1

/-- The set without members. -/
def empty : CodeSet := ⟨#[]⟩

/-- All code points. -/
def all : CodeSet := ⟨#[0]⟩

/-- The code points from `lo` to `hi`, both included. -/
def range (lo hi : Nat) : CodeSet := ⟨#[lo, hi + 1]⟩

/-- The set with the single member `n`. -/
def single (n : Nat) : CodeSet := range n n

/-- Merges two bound lists. `a` and `b` say whether the sweep is inside the first and the second
set; a bound is kept where the truth of `op a b` changes. -/
def mergeBounds (op : Bool → Bool → Bool) : List Nat → List Nat → Bool → Bool → List Nat
  | [], [], _, _ => []
  | x :: xs, [], a, b =>
    let rest := mergeBounds op xs [] (!a) b
    if op (!a) b == op a b then rest else x :: rest
  | [], y :: ys, a, b =>
    let rest := mergeBounds op [] ys a (!b)
    if op a (!b) == op a b then rest else y :: rest
  | x :: xs, y :: ys, a, b =>
    if x < y then
      let rest := mergeBounds op xs (y :: ys) (!a) b
      if op (!a) b == op a b then rest else x :: rest
    else if y < x then
      let rest := mergeBounds op (x :: xs) ys a (!b)
      if op a (!b) == op a b then rest else y :: rest
    else
      let rest := mergeBounds op xs ys (!a) (!b)
      if op (!a) (!b) == op a b then rest else x :: rest
termination_by xs ys => xs.length + ys.length

/-- The set of code points on which `op` holds of the memberships in `s` and `t`. An `op` that holds
outside both sets switches on at zero. -/
def combine (op : Bool → Bool → Bool) (s t : CodeSet) : CodeSet :=
  let merged := mergeBounds op s.bounds.toList t.bounds.toList false false
  if op false false then
    match merged with
    | 0 :: rest => ⟨rest.toArray⟩
    | _ => ⟨(0 :: merged).toArray⟩
  else ⟨merged.toArray⟩

def union (s t : CodeSet) : CodeSet := combine (· || ·) s t

def inter (s t : CodeSet) : CodeSet := combine (· && ·) s t

def diff (s t : CodeSet) : CodeSet := combine (fun a b => a && !b) s t

/-- Members of exactly one of the two sets. -/
def symmDiff (s t : CodeSet) : CodeSet := combine (· != ·) s t

/-- The bounds of the set of the members of an ascending list; repeated members count once. -/
def boundsOfAscending : List Nat → List Nat
  | [] => []
  | n :: rest =>
    match boundsOfAscending rest with
    | [] => [n, n + 1]
    | m :: more => if m = n then m :: more else if m = n + 1 then n :: more else n :: (n + 1) :: m :: more

/-- The set of the members of a list. -/
def ofList (ns : List Nat) : CodeSet := ⟨(boundsOfAscending (ns.mergeSort (· ≤ ·))).toArray⟩

/-- The union of several sets. -/
def unions (sets : List CodeSet) : CodeSet := sets.foldl union empty

end CodeSet

end FraudScreen.Text
