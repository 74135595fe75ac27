import FraudScreen.Screening.Findings

/-!
# Compiled patterns

Patterns made ready for scanning, in one of two ways. The plain way keeps one expression per pattern and
tries them in turn. The accelerated way sweeps once over the text for all literals together, asks for
each other expression whether it matches at all, and puts the matches in the order of the patterns. Either
way a pattern yields its first match in a text, and patterns that are empty or do not read are left out.
-/
namespace FraudScreen.Screening

/-! ## One expression after another -/

/-- A pattern with its expression. -/
structure Entry where
  pattern : Pattern
  regex : Regex

/-- The entry of a pattern that is not empty and whose expression reads. -/
def Entry.ofPattern? (p : Pattern) : Option Entry :=
  if p.text.isEmpty then none else (Regex.parse p.source).map (⟨p, ·⟩)

/-- The match of an entry in a text, if it passes the filter. -/
def Entry.hit? (text : List Char) (category : Option String) (e : Entry) : Option Hit :=
  if e.pattern.isIn category then
    (e.regex.find? text.toArray).map fun (i, j) => .ofSpan e.pattern text i j
  else none

/-- Patterns with an expression each. -/
structure Plain where
  entries : List Entry

namespace Plain

def compile (ps : List Pattern) : Plain := ⟨ps.filterMap Entry.ofPattern?⟩

def size (d : Plain) : Nat := d.entries.length

def hits (d : Plain) (text : List Char) (category : Option String) : List Hit :=
  d.entries.filterMap (·.hit? text category)

end Plain

/-! ## All literals in one sweep -/

/-- How a pattern is looked for. -/
inductive Search where
  /-- As a text, given backwards. -/
  | literal (reversed : List Char)
  | regex (r : Regex)

/-- The way to look for a pattern that is not empty and whose expression reads. -/
def Search.ofPattern? (p : Pattern) : Option Search :=
  if p.text.isEmpty then none
  else if p.isPlainLiteral then some (.literal p.text.toList.reverse)
  else (Regex.parse p.source).map .regex

/-- The place of a match: the number of the pattern, and the characters where the match starts and
ends. -/
structure Place where
  index : Nat
  start : Nat
  stop : Nat
deriving DecidableEq, Repr

/-- The literals that end at a place, given what was read up to it, backwards. -/
def endingAt (literals : List (Nat × List Char)) (passed : List Char) (place : Nat) : List Place :=
  literals.filterMap fun (index, l) =>
    if l.isPrefixOf passed then some ⟨index, place - l.length, place⟩ else none

/-- All occurrences of literals in what is still to be read, in order of their ends. -/
def sweep (literals : List (Nat × List Char)) (passed : List Char) (place : Nat) : List Char → List Place
  | [] => endingAt literals passed place
  | c :: rest => endingAt literals passed place ++ sweep literals (c :: passed) (place + 1) rest

/-- The first place of every pattern. -/
def firstPlaces (seen : List Nat) : List Place → List Place
  | [] => []
  | p :: rest =>
    if seen.contains p.index then firstPlaces seen rest
    else p :: firstPlaces (p.index :: seen) rest

/-- Patterns with their literals and their other expressions, numbered through. -/
structure Accelerated where
  patterns : Array Pattern
  literals : List (Nat × List Char)
  regexes : List (Nat × Regex)

namespace Accelerated

def compile (ps : List Pattern) : Accelerated :=
  let kept := ps.filterMap fun p => (Search.ofPattern? p).map (p, ·)
  { patterns := (kept.map (·.1)).toArray
    literals := kept.zipIdx.filterMap fun ((_, s), i) =>
      match s with
      | .literal l => some (i, l)
      | .regex _ => none
    regexes := kept.zipIdx.filterMap fun ((_, s), i) =>
      match s with
      | .literal _ => none
      | .regex r => some (i, r) }

def size (d : Accelerated) : Nat := d.patterns.size

/-- The pattern with a number passes the filter. -/
def admits (d : Accelerated) (category : Option String) (index : Nat) : Bool :=
  d.patterns[index]?.any (·.isIn category)

/-- The first reports of literals that pass the filter. -/
def literalPlaces (d : Accelerated) (text : List Char) (category : Option String) : List Place :=
  (firstPlaces [] (sweep d.literals [] 0 text)).filter (d.admits category ·.index)

/-- The first matches of the other expressions that pass the filter. -/
def regexPlaces (d : Accelerated) (text : List Char) (category : Option String) : List Place :=
  (d.regexes.filter fun (i, r) => r.isMatch text.toArray && d.admits category i).filterMap
    fun (index, r) => (r.find? text.toArray).map fun (start, stop) => ⟨index, start, stop⟩

/-- The places in order of the patterns. -/
def inOrder (places : List Place) : List Place := places.mergeSort fun a b => a.index ≤ b.index

/-- The places of the matches, in order of the patterns. -/
def places (d : Accelerated) (text : List Char) (category : Option String) : List Place :=
  inOrder (d.literalPlaces text category ++ d.regexPlaces text category)

/-- The matches at some places. -/
def hitsAt (d : Accelerated) (text : List Char) (places : List Place) : List Hit :=
  places.filterMap fun place => d.patterns[place.index]?.map fun p => .ofSpan p text place.start place.stop

def hits (d : Accelerated) (text : List Char) (category : Option String) : List Hit :=
  d.hitsAt text (d.places text category)

end Accelerated

end FraudScreen.Screening
