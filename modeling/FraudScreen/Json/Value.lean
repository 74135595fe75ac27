import FraudScreen.Json.Number
import FraudScreen.Record

/-!
# JSON values

The tree of a JSON text. Objects keep all their members in order, repeated names included. A text whose
escapes name half of a character pair is kept as `none`: it is well formed, but has no value.
-/
namespace FraudScreen.Json

/-- A JSON value. -/
inductive Value where
  | null
  | bool (b : Bool)
  | number (n : Number)
  | text (s : Option String)
  | array (items : List Value)
  | object (members : List (Option String × Value))

namespace Value

/-- The text of a string value. -/
def text? : Value → Option String
  | text s => s
  | _ => none

def bool? : Value → Option Bool
  | bool b => some b
  | _ => none

/-- The value of any number, in floating point. -/
def float? : Value → Option Float
  | number n => n.toFloat?
  | _ => none

/-- A whole number from zero to `most`. -/
def nat? (most : Nat) : Value → Option Nat
  | number n => n.toNat? most
  | _ => none

def items? : Value → Option (List Value)
  | array items => some items
  | _ => none

def isNull : Value → Bool
  | null => true
  | _ => false

/-- The member of an object, the last of those that share the name. -/
def member? (name : String) : Value → Option Value
  | object members => (members.reverse.find? (·.1 == some name)).map (·.2)
  | _ => none

/-- The known fields of an object, or of an array in field order. -/
def fields? (known : List String) : Value → Option (Fields Value)
  | object members => do
    let named ← members.mapM fun (name, v) => name.map (·, v)
    Fields.ofMembers? known named
  | array items => Fields.ofItems? known items
  | _ => none

mutual

/-- Every text and every number has a value, and values nest at most `depth` deep. -/
def isReadable (depth : Nat) : Value → Bool
  | number n => n.toFloat?.isSome
  | text s => s.isSome
  | array items => depth != 0 && areReadable (depth - 1) items
  | object members => depth != 0 && areReadableMembers (depth - 1) members
  | _ => true

def areReadable (depth : Nat) : List Value → Bool
  | [] => true
  | v :: rest => isReadable depth v && areReadable depth rest

def areReadableMembers (depth : Nat) : List (Option String × Value) → Bool
  | [] => true
  | (name, v) :: rest => name.isSome && isReadable depth v && areReadableMembers depth rest

end

instance : Structured Value := ⟨fun v => some v.isNull, text?, bool?, float?, items?, fields?⟩

end Value

end FraudScreen.Json
