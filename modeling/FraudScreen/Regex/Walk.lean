import FraudScreen.Regex.Basic
import Std.Data.HashSet

/-!
# Walking through an expression

An expression as a graph. A walk starts at the entry of the graph and at a place of the text, takes the first
of two ways where the graph splits, and goes back for the second only when the first has come to nothing. A
node that was visited at a place is not entered there again: it led to nothing the first time, or the walk is
on its way from it and would go in a circle.
-/
namespace FraudScreen.Regex

open Text (CodeSet)

/-- A node of a graph, with the numbers of the nodes after it. -/
inductive Node where
  | finish
  | char (c : Char) (next : Nat)
  | set (s : CodeSet) (next : Nat)
  | look (l : Look) (next : Nat)
  | split (first second : Nat)

/-- The nodes of a graph by their numbers. -/
abbrev Graph := Array Node

namespace Graph

/-- Adds a node and gives its number. -/
def add (g : Graph) (n : Node) : Nat × Graph := (g.size, g.push n)

/-- A choice between going in and going past, in order of preference. -/
def choice (greedy : Bool) (inside past : Nat) : Node := if greedy then .split inside past else .split past inside

/-- Puts a number of copies of something in front of a node. -/
def copies (one : Nat → Graph → Nat × Graph) : Nat → Nat → Graph → Nat × Graph
  | 0, next, g => (next, g)
  | n + 1, next, g =>
    let (entry, g) := one next g
    copies one n entry g

/-- Adds the nodes of an expression in front of the node `next`, and gives the number of the entry. A loop that may
be passed by is entered at the choice between going on and leaving; but if a round may be empty, it has a choice of
its own in front of it, since otherwise a round would come back to the place where the choice was made. -/
def build : Regex → Nat → Graph → Nat × Graph
  | .empty, next, g => (next, g)
  | .text cs, next, g => cs.foldr (fun c (entry, g) => add g (.char c entry)) (next, g)
  | .set s, next, g => add g (.set s next)
  | .look l, next, g => add g (.look l next)
  | .group r, next, g => build r next g
  | .seq a b, next, g =>
    let (entry, g) := build b next g
    build a entry g
  | .alt a b, next, g =>
    let (first, g) := build a next g
    let (second, g) := build b next g
    add g (.split first second)
  | .many r least (some most) greedy, next, g =>
    let optional (after : Nat) (g : Graph) : Nat × Graph :=
      let (inside, g) := build r after g
      add g (choice greedy inside next)
    let (entry, g) := copies optional (most - least) next g
    copies (build r) least entry g
  | .many r least none greedy, next, g =>
    let (again, g) := add g .finish
    let (inside, g) := build r again g
    let g := g.setIfInBounds again (choice greedy inside next)
    match least with
    | 0 => if r.isNullable then add g (choice greedy inside next) else (again, g)
    | n + 1 => copies (build r) n inside g

/-- The graph of an expression and its entry. -/
def ofRegex (r : Regex) : Nat × Graph := build r 0 #[.finish]

/-- A node at a place. -/
abbrev Stand := Nat × Nat

/-- Where the walk goes from a node at the place `i`, the preferred way first. -/
def nexts (t : Array Char) (i : Nat) : Node → List Stand
  | .finish => []
  | .char c next => if t[i]? == some c then [(next, i + 1)] else []
  | .set s next => if t[i]?.any (s.contains ·.toNat) then [(next, i + 1)] else []
  | .look l next => if l.holds t i then [(next, i)] else []
  | .split first second => [(first, i), (second, i)]

/-- Walks on from the first of the stands still to be tried, and gives the place where a walk first finishes, if
one does, with all that was visited. Every step takes away a stand or visits one and adds two at most, so twice
the number of stands is fuel enough. -/
def walk (g : Graph) (t : Array Char) :
    Nat → Std.HashSet Stand → List Stand → Option Nat × Std.HashSet Stand
  | 0, visited, _ => (none, visited)
  | _, visited, [] => (none, visited)
  | fuel + 1, visited, (n, i) :: rest =>
    if visited.contains (n, i) then walk g t fuel visited rest
    else match g[n]? with
      | some .finish => (some i, visited)
      | some node => walk g t fuel (visited.insert (n, i)) (nexts t i node ++ rest)
      | none => walk g t fuel visited rest

/-- The first match whose start is among some places. What earlier starts visited came to nothing. -/
def firstFrom (g : Graph) (entry : Nat) (t : Array Char) : Std.HashSet Stand → List Nat → Option (Nat × Nat)
  | _, [] => none
  | visited, i :: rest =>
    match walk g t (2 * g.size * (t.size + 1) + 2) visited [(entry, i)] with
    | (some j, _) => some (i, j)
    | (none, visited) => firstFrom g entry t visited rest

end Graph

/-- The first match in a text by a walk. -/
def walk? (r : Regex) (t : Array Char) : Option (Nat × Nat) :=
  let (entry, g) := Graph.ofRegex r
  g.firstFrom entry t {} (List.range (t.size + 1))

end FraudScreen.Regex
