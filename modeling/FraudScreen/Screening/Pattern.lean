import FraudScreen.Json.Value
import FraudScreen.Regex.Parser
import FraudScreen.Screening.Glob
import FraudScreen.Text.Occurrence

/-!
# Patterns

What is looked for in the fields of a transaction. A pattern is a literal text, a text with wildcards or
a regular expression, and belongs to a category; the name of the category says whether a match speaks
against a transaction or for it.
-/
namespace FraudScreen.Screening

/-- How the text of a pattern came about. -/
inductive Kind where
  | exact
  | wildcard
  | cidr
deriving DecidableEq, Repr

namespace Kind

def name : Kind → String
  | exact => "exact"
  | wildcard => "wildcard"
  | cidr => "cidr"

/-- The kind with a name. -/
def named? (s : String) : Option Kind := [exact, wildcard, cidr].find? (·.name = s)

/-- A kind is written as its name, or as an object whose only member has that name and no value. -/
def ofJson? : Json.Value → Option Kind
  | .text (some s) => named? s
  | .object [(some s, .null)] => named? s
  | _ => none

end Kind

/-- The categories whose matches speak against a transaction. -/
def isBlacklist (category : String) : Bool := Text.occursIn "blacklist".toList category.toList

/-- The categories whose matches speak for a transaction. -/
def isWhitelist (category : String) : Bool :=
  !isBlacklist category && Text.occursIn "whitelist".toList category.toList

structure Pattern where
  id : UInt32
  name : String
  text : String
  category : String
  /-- The text is a regular expression. -/
  isRegex : Bool
  caseSensitive : Bool
  priority : UInt32
  kind : Kind
deriving DecidableEq, Repr

namespace Pattern

/-- The priority of patterns for which none is given. -/
def defaultPriority : UInt32 := 10

/-- A pattern named after its category, kind and number. -/
def make (id : UInt32) (text category : String) (kind : Kind) (isRegex : Bool) : Pattern :=
  { id, text, category, kind, isRegex
    name := category ++ "_" ++ kind.name ++ "_" ++ toString id.toNat
    caseSensitive := true
    priority := defaultPriority }

def exact (id : UInt32) (text category : String) : Pattern := make id text category .exact false

def wildcard (id : UInt32) (text category : String) : Pattern := make id text category .wildcard false

def regex (id : UInt32) (text category : String) : Pattern := make id text category .exact true

/-- The pattern without regard to case. -/
def caseInsensitive (p : Pattern) : Pattern := { p with caseSensitive := false }

def withPriority (p : Pattern) (n : UInt32) : Pattern := { p with priority := n }

/-- The pattern stands for its own text and nothing else. -/
def isPlainLiteral (p : Pattern) : Bool := !p.isRegex && p.kind != .wildcard && p.caseSensitive

/-- The regular expression for a pattern, before the regard to case. -/
def body (p : Pattern) : List Char :=
  if p.isRegex then p.text.toList
  else match p.kind with
    | .wildcard => Glob.source p.text.toList
    | .exact | .cidr => Regex.escape p.text.toList

/-- The regular expression for a pattern. -/
def source (p : Pattern) : List Char :=
  if p.caseSensitive then p.body else ['(', '?', 'i', ')'] ++ p.body

/-- The pattern passes a filter on categories. -/
def isIn (p : Pattern) (category : Option String) : Bool := category.all (p.category == ·)

/-- The fields of a pattern in their order. -/
def fieldNames : List String :=
  ["id", "name", "pattern", "category", "is_regex", "case_sensitive", "priority", "kind"]

/-- Reads a pattern. -/
def ofJson? (v : Json.Value) : Option Pattern := do
  let f ← v.fields? fieldNames
  let id ← f.required "id" (Json.Value.nat? 4294967295)
  let name ← f.required "name" Json.Value.text?
  let text ← f.required "pattern" Json.Value.text?
  let category ← f.required "category" Json.Value.text?
  let isRegex ← f.required "is_regex" Json.Value.bool?
  let caseSensitive ← f.required "case_sensitive" Json.Value.bool?
  let priority ← f.required "priority" (Json.Value.nat? 4294967295)
  let kind ← f.required "kind" Kind.ofJson?
  return {
    name, text, category, isRegex, caseSensitive, kind
    id := .ofNat id
    priority := .ofNat priority }

end Pattern

/-- A text is fit for a pattern if it is not empty and, where it is meant as a regular expression, reads
as one. -/
def isValidText (text : String) (isRegex : Bool) : Bool :=
  !text.isEmpty && (!isRegex || (Regex.parse text.toList).isSome)

end FraudScreen.Screening
