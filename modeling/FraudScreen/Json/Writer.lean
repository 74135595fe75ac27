import FraudScreen.Decimal.Layout

/-!
# Writing JSON

Texts, numbers, arrays and objects without any white space.
-/
namespace FraudScreen.Json

/-- A character of a text: quotes, backslashes and control characters are escaped. -/
def escapeChar (c : Char) : List Char :=
  match c with
  | '"' => ['\\', '"']
  | '\\' => ['\\', '\\']
  | '\x08' => ['\\', 'b']
  | '\t' => ['\\', 't']
  | '\n' => ['\\', 'n']
  | '\x0c' => ['\\', 'f']
  | '\r' => ['\\', 'r']
  | c =>
    if c.toNat < 32 then
      ['\\', 'u', '0', '0', Nat.digitChar (c.toNat / 16), Nat.digitChar (c.toNat % 16)]
    else [c]

def writeText (s : String) : String := String.ofList ('"' :: s.toList.flatMap escapeChar ++ ['"'])

/-- A number; what is none, or is infinite, is null. -/
def writeFloat (x : Float) : String := if x.isFinite then Decimal.writeExplicit x else "null"

def writeArray (items : List String) : String := "[" ++ ",".intercalate items ++ "]"

/-- An object with written members. -/
def writeObject (members : List (String × String)) : String :=
  "\x7b" ++ ",".intercalate (members.map fun (name, v) => writeText name ++ ":" ++ v) ++ "\x7d"

end FraudScreen.Json
