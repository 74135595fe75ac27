import FraudScreen.Decimal.Reader
import FraudScreen.Text.Utf8
import FraudScreen.Yaml.Scalar

/-!
# Tags of YAML

A tag names the type of a node. It is written in full, or as a handle, which stands for the start of the tag,
and the rest. The bytes of a tag may be written as escapes, a percent sign with two hexadecimal digits.
-/
namespace FraudScreen.Yaml

/-- A character of handles, anchor names and the names of directives. -/
def isNameChar (c : Char) : Bool := c.isAlphanum || c == '_' || c == '-'

/-- A character of tags. Those that structure flow collections must not stand in a tag with a handle. -/
def isTagChar (inFull : Bool) (c : Char) : Bool :=
  isNameChar c || ";/?:@&=+$.%!~*'()".contains c || (inFull && [',', '[', ']'].contains c)

/-- A tag as bytes. -/
abbrev Tag := List Nat

namespace Tag

/-- The bytes of a text without escapes. -/
def ofString (s : String) : Tag := s.toList.map (·.toNat)

/-- The tag that stands for no tag. -/
def unspecific : Tag := ofString "!"

/-- The tag of a type of the format itself. -/
def core (name : String) : Tag := ofString ("tag:yaml.org,2002:" ++ name)

/-- The bytes that a part of a tag spells, where `more` bytes of a character are still to come. The first
byte of an escaped character tells how many follow it, and these are escaped too. -/
def spelled? : Nat → List Char → Option Tag
  | 0, [] => some []
  | _ + 1, [] => none
  | more, '%' :: a :: b :: rest => do
    let byte ← Decimal.hexValueOf? [a, b]
    let more ← match more with
      | 0 => Text.Utf8.following? byte
      | left + 1 => if Text.Utf8.isFollowing byte then some left else none
    return byte :: (← spelled? more rest)
  | 0, c :: rest => if c = '%' then none else (spelled? 0 rest).map (c.toNat :: ·)
  | _ + 1, _ :: _ => none

/-- Reads a part of a tag; a zero byte would end it. -/
def part? (cs : List Char) : Option Tag := (spelled? 0 cs).map (·.takeWhile (· ≠ 0))

end Tag

/-- A tag as it is written: the start is missing from one with a handle. -/
structure TagToken where
  handle : Option String
  rest : Tag
deriving DecidableEq, Repr

/-- The starts of tags that handles stand for. -/
abbrev Handles := List (String × Tag)

namespace Handles

/-- The handles that need no directive. -/
def standard : Handles := [("!", Tag.ofString "!"), ("!!", Tag.core "")]

/-- The tag that is meant; its handle must be known. -/
def tag? (h : Handles) (t : TagToken) : Option Tag :=
  match t.handle with
  | none => some t.rest
  | some handle => ((h ++ standard).lookup handle).map (· ++ t.rest)

end Handles

/-- Reads a tag after its mark, with what follows it. A mark on its own is the tag without a type. -/
def TagToken.read? : List Char → Option (TagToken × List Char)
  | '<' :: cs => do
    let uri := cs.takeWhile (isTagChar true)
    match cs.drop uri.length with
    | '>' :: after => if uri = [] then none else return (⟨none, ← Tag.part? uri⟩, after)
    | _ => none
  | cs => do
    let name := cs.takeWhile isNameChar
    match cs.drop name.length with
    | '!' :: more =>
      let uri := more.takeWhile (isTagChar false)
      if uri = [] then none
      else return (⟨some ("!" ++ String.ofList name ++ "!"), ← Tag.part? uri⟩, more.drop uri.length)
    | _ =>
      let uri := cs.takeWhile (isTagChar false)
      let rest ← Tag.part? uri
      let tag : TagToken := if rest = [] then ⟨none, Tag.unspecific⟩ else ⟨some "!", rest⟩
      return (tag, cs.drop uri.length)

end FraudScreen.Yaml
