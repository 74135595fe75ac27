import FraudScreen.Record
import FraudScreen.Yaml.Node

/-!
# Values of YAML

What a node means depends on what is wanted of it. Any scalar is a text; only plain scalars are numbers,
truth values or nothing at all, and literal blocks with the tag of the type that is wanted. Where a list or
a record is wanted, a plain scalar without text is an empty one.
-/
namespace FraudScreen.Yaml

namespace Node

/-- A plain scalar without text. -/
def isBlank : Node → Bool
  | scalar .plain _ text => text.isEmpty
  | _ => false

/-- The words for nothing. -/
def nullWords : List String := ["~", "null", "Null", "NULL"]

/-- A plain scalar says that there is no value by a word for it or, without a tag, by having no text. With a
tag it says so only if the tag is the one for nothing, and then it must. -/
def isNull? : Node → Option Bool
  | scalar .plain none text => some (text.isEmpty || nullWords.contains text)
  | scalar .plain (some tag) text =>
    if tag ≠ Tag.core "null" then some false
    else if nullWords.contains text then some true
    else none
  | _ => some false

def text? : Node → Option String
  | scalar _ _ text => some text
  | _ => none

/-- The text of a scalar that can be a value of the type. -/
def typed? (type : String) : Node → Option String
  | scalar .plain _ text => some text
  | scalar .literal tag text => if tag = some (Tag.core type) then some text else none
  | _ => none

def bool? (n : Node) : Option Bool := do
  let text ← n.typed? "bool"
  if ["true", "True", "TRUE"].contains text then some true
  else if ["false", "False", "FALSE"].contains text then some false
  else none

/-- Infinity. -/
def infinity : Float := Float.ofBits 0x7FF0000000000000

/-- The number that a scalar spells: a finite decimal, or one of the names that begin with a point. -/
def floatOf? (text : String) : Option Float :=
  if [".inf", ".Inf", ".INF", "+.inf", "+.Inf", "+.INF"].contains text then some infinity
  else if ["-.inf", "-.Inf", "-.INF"].contains text then some (-infinity)
  else if [".nan", ".NaN", ".NAN"].contains text then some (0 / 0)
  else (Decimal.read? text.toList).filter Float.isFinite

def float? (n : Node) : Option Float := (n.typed? "float").bind floatOf?

end Node

namespace Cursor

def items? (c : Cursor) : Option (List Cursor) :=
  match c.content with
  | .sequence items => some (items.map c.goto)
  | n => if n.isBlank then some [] else none

/-- The known fields of a mapping, whose keys must all be scalars. -/
def fields? (known : List String) (c : Cursor) : Option (Fields Cursor) :=
  match c.content with
  | .mapping entries => do
    let named ← entries.mapM fun (k, v) => (c.goto k).content.text?.map (·, c.goto v)
    Fields.ofMembers? known named
  | n => if n.isBlank then some ⟨[]⟩ else none

instance : Structured Cursor where
  isNull? c := c.content.isNull?
  text? c := c.content.text?
  bool? c := c.content.bool?
  float? c := c.content.float?
  items? := items?
  fields? := fields?

end Cursor

end FraudScreen.Yaml
