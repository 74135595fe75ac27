import FraudScreen.Regex.Property.Binary
import FraudScreen.Regex.Property.Break
import FraudScreen.Regex.Property.Category
import FraudScreen.Text.CaseFold
import FraudScreen.Text.Script.Shared

/-!
# Named character classes

The classes that patterns name: by one letter, in the brackets of ASCII classes, or as a property. Names
of properties are compared without regard to case, spaces, hyphens, underscores and a leading `is`.
-/
namespace FraudScreen.Regex

open Text (CodeSet Script)

/-- The set of the characters of a list of ranges. -/
def ranges (rs : List (Char × Char)) : CodeSet :=
  CodeSet.unions (rs.map fun (a, b) => .range a.toNat b.toNat)

/-- The ASCII class with a name. -/
def asciiClass? : String → Option CodeSet
  | "alnum" => some (ranges [('0', '9'), ('A', 'Z'), ('a', 'z')])
  | "alpha" => some (ranges [('A', 'Z'), ('a', 'z')])
  | "ascii" => some (.range 0 127)
  | "blank" => some (ranges [('\t', '\t'), (' ', ' ')])
  | "cntrl" => some (ranges [('\x00', '\x1f'), ('\x7f', '\x7f')])
  | "digit" => some (ranges [('0', '9')])
  | "graph" => some (ranges [('!', '~')])
  | "lower" => some (ranges [('a', 'z')])
  | "print" => some (ranges [(' ', '~')])
  | "punct" => some (ranges [('!', '/'), (':', '@'), ('[', '\x60'), ('\x7b', '~')])
  | "space" => some (ranges [('\t', '\r'), (' ', ' ')])
  | "upper" => some (ranges [('A', 'Z')])
  | "word" => some (ranges [('0', '9'), ('A', 'Z'), ('_', '_'), ('a', 'z')])
  | "xdigit" => some (ranges [('0', '9'), ('A', 'F'), ('a', 'f')])
  | _ => none

/-- What classes of one letter stand for. -/
inductive Shorthand where
  | digit
  | space
  | word
deriving DecidableEq, Repr

/-- The characters of a class of one letter, among all characters or among the ASCII ones. -/
def Shorthand.members (asciiOnly : Bool) : Shorthand → CodeSet
  | digit => if asciiOnly then ranges [('0', '9')] else Property.decimalNumber
  | space => if asciiOnly then ranges [('\t', '\r'), (' ', ' ')] else Text.blanks
  | word => if asciiOnly then ranges [('0', '9'), ('A', 'Z'), ('_', '_'), ('a', 'z')] else Property.word

namespace Property

/-! ## Names -/

/-- The characters of a name that count: the ASCII ones but for spaces, hyphens and underscores, without
capitals. -/
def significant (name : List Char) : List Char :=
  (name.filter fun c => c.toNat < 128 && c != ' ' && c != '_' && c != '-').map Char.toLower

/-- A name without what does not count in it. A leading `is` does not, unless only `c` is left: that is the
short name of a property which has nothing to do with the category `c`. -/
def looseName (name : List Char) : String :=
  match name with
  | a :: b :: rest =>
    if a.toLower = 'i' ∧ b.toLower = 's' then
      if significant rest = ['c'] then "isc" else String.ofList (significant rest)
    else String.ofList (significant name)
  | _ => String.ofList (significant name)

/-! ## Values -/

/-- The script with a name. -/
def script? (name : String) : Option Script := Script.all.find? (·.names.contains name)

/-- The edition of a name: two numbers with a point between them, or `v` and the digits of both. -/
def edition? (name : String) : Option (Nat × Nat) :=
  (Text.Age.editions.map (·.1)).find? fun (major, minor) =>
    name = toString major ++ "." ++ toString minor || name = "v" ++ toString major ++ toString minor

/-- The characters for which the property `key` has the value `value`. -/
def valued? (key value : String) : Option CodeSet :=
  match key with
  | "gc" | "generalcategory" => category? value
  | "sc" | "script" => (script? value).map (·.members)
  | "scx" | "scriptextensions" => (script? value).map (·.users)
  | "age" => (edition? value).map fun e => (Text.Age.upTo e).inter scalars
  | "gcb" | "graphemeclusterbreak" => graphemeClass? value
  | "wb" | "wordbreak" => wordClass? value
  | "sb" | "sentencebreak" => sentenceClass? value
  | _ => none

/-- Names that stand for a category even though properties share them. -/
def categoryFirst : List String := ["cf", "sc", "lc"]

/-- The characters of which something named alone holds: a property, a category or a script. -/
def named? (name : String) : Option CodeSet :=
  let other := (category? name).or ((script? name).map (·.members))
  if categoryFirst.contains name then other else (binary? name).or other

/-- A text up to the first place where a mark stands, and the text after the mark. -/
def splitAt? (mark : List Char) : List Char → Option (List Char × List Char)
  | [] => none
  | c :: rest =>
    if mark.isPrefixOf (c :: rest) then some ([], (c :: rest).drop mark.length)
    else (splitAt? mark rest).map fun (before, after) => (c :: before, after)

/-- The characters that a text in braces names, and whether all others are meant: a property with a value that
it has or has not, or something named alone. -/
def read? (text : List Char) : Option (CodeSet × Bool) :=
  let valued (parts : List Char × List Char) : Option CodeSet := valued? (looseName parts.1) (looseName parts.2)
  match splitAt? ['!', '='] text with
  | some parts => (valued parts).map (·, true)
  | none =>
    match (splitAt? [':'] text).or (splitAt? ['='] text) with
    | some parts => (valued parts).map (·, false)
    | none => (named? (looseName text)).map (·, false)

end Property

end FraudScreen.Regex
