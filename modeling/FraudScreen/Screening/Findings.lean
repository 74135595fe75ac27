import FraudScreen.Screening.Pattern
import FraudScreen.Text.Bytes

/-!
# Findings

The matches of patterns in texts, all of them and those that speak against or for a transaction.
-/
namespace FraudScreen.Screening

/-- A match of a pattern, with the bytes of the text where it lies. -/
structure Hit where
  patternId : UInt32
  patternName : String
  text : String
  start : Nat
  stop : Nat
  category : String
deriving DecidableEq, Repr

/-- The match of a pattern from the character `i` of a text up to `j`. -/
def Hit.ofSpan (p : Pattern) (text : List Char) (i j : Nat) : Hit :=
  { patternId := p.id
    patternName := p.name
    text := String.ofList ((text.take j).drop i)
    start := Text.byteLength (text.take i)
    stop := Text.byteLength (text.take j)
    category := p.category }

structure Findings where
  hits : List Hit
  /-- The matches that speak against a transaction. -/
  against : List Hit
  /-- The matches that speak for a transaction. -/
  inFavour : List Hit
  patternsChecked : Nat
  textsProcessed : Nat
deriving DecidableEq, Repr

namespace Findings

def empty : Findings := ⟨[], [], [], 0, 0⟩

/-- Adds a match, to the side that its category stands for. -/
def push (f : Findings) (h : Hit) : Findings :=
  let f := { f with hits := f.hits ++ [h] }
  if isBlacklist h.category then { f with against := f.against ++ [h] }
  else if isWhitelist h.category then { f with inFavour := f.inFavour ++ [h] }
  else f

/-- Findings of one text after those of others. The number of patterns is that of the later findings. -/
def merge (f g : Findings) : Findings :=
  { hits := f.hits ++ g.hits
    against := f.against ++ g.against
    inFavour := f.inFavour ++ g.inFavour
    patternsChecked := g.patternsChecked
    textsProcessed := f.textsProcessed + g.textsProcessed }

/-- The findings with the given matches in one text. -/
def ofHits (patternsChecked : Nat) (hits : List Hit) : Findings :=
  hits.foldl push { empty with patternsChecked, textsProcessed := 1 }

/-- What a match against a transaction adds to the score. -/
def hitAgainst : Float := 10

/-- What a match in favour of a transaction takes from the score. -/
def hitInFavour : Float := 5

/-- The score of the matches, which is never below zero. -/
def score (f : Findings) : Float :=
  let s := hitAgainst * f.against.length.toFloat - hitInFavour * f.inFavour.length.toFloat
  if s < 0 then 0 else s

end Findings

end FraudScreen.Screening
