import FraudScreen.Json.Value

/-!
# Reading JSON

A strict reader: no comments, no trailing commas, no leading zeros, no raw control characters in
strings, nothing after the value. White space is space, tab, line feed and carriage return.
-/
namespace FraudScreen.Json

def isSpace (c : Char) : Bool := c == ' ' || c == '\t' || c == '\n' || c == '\r'

def skipSpace (cs : List Char) : List Char := cs.dropWhile isSpace

/-! ## Strings -/

/-- The code unit that four hexadecimal digits name. -/
def codeUnit? (a b c d : Char) : Option Nat := Decimal.hexValueOf? [a, b, c, d]

/-- The character of a short escape. -/
def shortEscape? : Char → Option Char
  | '"' => some '"'
  | '\\' => some '\\'
  | '/' => some '/'
  | 'b' => some '\x08'
  | 'f' => some '\x0c'
  | 'n' => some '\n'
  | 'r' => some '\r'
  | 't' => some '\t'
  | _ => none

/-- One unit of a string: a character, or a 16-bit code unit from an escape. -/
inductive Unit16 where
  | char (c : Char)
  | escaped (n : Nat)

/-- The units of a string after its opening quote, and the text after the closing one. -/
def readUnits : List Char → Option (List Unit16 × List Char)
  | [] => none
  | '"' :: rest => some ([], rest)
  | '\\' :: 'u' :: a :: b :: c :: d :: rest => do
    let n ← codeUnit? a b c d
    let (units, more) ← readUnits rest
    return (.escaped n :: units, more)
  | '\\' :: c :: rest => do
    let e ← shortEscape? c
    let (units, more) ← readUnits rest
    return (.char e :: units, more)
  | c :: rest =>
    if c.toNat < 32 ∨ c = '\\' then none
    else do
      let (units, more) ← readUnits rest
      return (.char c :: units, more)

/-- The characters of a string; escaped code units beyond the basic plane come in pairs. -/
def decodeUnits : List Unit16 → Option (List Char)
  | [] => some []
  | .char c :: rest => (decodeUnits rest).map (c :: ·)
  | .escaped n :: rest =>
    if 0xDC00 ≤ n ∧ n < 0xE000 then none
    else if 0xD800 ≤ n ∧ n < 0xDC00 then
      match rest with
      | .escaped m :: more =>
        if 0xDC00 ≤ m ∧ m < 0xE000 then
          (decodeUnits more).map (Char.ofNat (0x10000 + (n - 0xD800) * 0x400 + (m - 0xDC00)) :: ·)
        else none
      | _ => none
    else (decodeUnits rest).map (Char.ofNat n :: ·)

/-- A string after its opening quote. -/
def readString (cs : List Char) : Option (Option String × List Char) :=
  (readUnits cs).map fun (units, rest) => ((decodeUnits units).map String.ofList, rest)

/-! ## Numbers -/

/-- At least one digit. -/
def readDigits (cs : List Char) : Option (List Char × List Char) :=
  let (ds, rest) := cs.span Char.isDigit
  if ds.isEmpty then none else some (ds, rest)

/-- The digits before the point: a zero, or digits that do not begin with one. -/
def readWhole (cs : List Char) : Option (List Char × List Char) := do
  let (ds, rest) ← readDigits cs
  if ds.head? = some '0' ∧ ds ≠ ['0'] then none else some (ds, rest)

def readFraction (cs : List Char) : Option (Option (List Char) × List Char) :=
  match cs with
  | '.' :: rest => (readDigits rest).map fun (ds, more) => (some ds, more)
  | _ => some (none, cs)

def readExponent (cs : List Char) : Option (Option (Bool × List Char) × List Char) :=
  match cs with
  | e :: rest =>
    if e = 'e' ∨ e = 'E' then
      match rest with
      | '-' :: more => (readDigits more).map fun (ds, final) => (some (true, ds), final)
      | '+' :: more => (readDigits more).map fun (ds, final) => (some (false, ds), final)
      | more => (readDigits more).map fun (ds, final) => (some (false, ds), final)
    else some (none, cs)
  | [] => some (none, cs)

def readNumber (cs : List Char) : Option (Number × List Char) := do
  let (negative, cs) := match cs with
    | '-' :: rest => (true, rest)
    | _ => (false, cs)
  let (whole, cs) ← readWhole cs
  let (fraction, cs) ← readFraction cs
  let (exponent, cs) ← readExponent cs
  return (⟨negative, whole, fraction, exponent⟩, cs)

/-! ## Values -/

/-- Reads `word` at the front. -/
def readWord (word : List Char) (v : Value) (cs : List Char) : Option (Value × List Char) :=
  if word.isPrefixOf cs then some (v, cs.drop word.length) else none

mutual

/-- A value without space before it. -/
def readValue : Nat → List Char → Option (Value × List Char)
  | 0, _ => none
  | _ + 1, [] => none
  | fuel + 1, c :: rest =>
    if c = 'n' then readWord "null".toList .null (c :: rest)
    else if c = 't' then readWord "true".toList (.bool true) (c :: rest)
    else if c = 'f' then readWord "false".toList (.bool false) (c :: rest)
    else if c = '"' then (readString rest).map fun (s, more) => (.text s, more)
    else if c = '[' then
      match skipSpace rest with
      | ']' :: more => some (.array [], more)
      | more => (readItems fuel more).map fun (items, final) => (.array items, final)
    else if c = '\x7b' then
      match skipSpace rest with
      | '\x7d' :: more => some (.object [], more)
      | more => (readMembers fuel more).map fun (members, final) => (.object members, final)
    else (readNumber (c :: rest)).map fun (n, more) => (.number n, more)

/-- The items of an array that is not empty, up to its closing bracket. -/
def readItems : Nat → List Char → Option (List Value × List Char)
  | 0, _ => none
  | fuel + 1, cs => do
    let (v, rest) ← readValue fuel cs
    match skipSpace rest with
    | ']' :: more => some ([v], more)
    | ',' :: more => do
      let (items, final) ← readItems fuel (skipSpace more)
      return (v :: items, final)
    | _ => none

/-- The members of an object that is not empty, up to its closing brace. -/
def readMembers : Nat → List Char → Option (List (Option String × Value) × List Char)
  | 0, _ => none
  | fuel + 1, cs =>
    match cs with
    | '"' :: rest => do
      let (name, rest) ← readString rest
      match skipSpace rest with
      | ':' :: rest => do
        let (v, rest) ← readValue fuel (skipSpace rest)
        match skipSpace rest with
        | '\x7d' :: more => some ([(name, v)], more)
        | ',' :: more => do
          let (members, final) ← readMembers fuel (skipSpace more)
          return ((name, v) :: members, final)
        | _ => none
      | _ => none
    | _ => none

end

/-- Reads a JSON text. Every step of the reader uses up a character or descends one level after it
did, so twice the length of the text is fuel enough. -/
def parse (s : String) : Option Value := do
  let cs := s.toList
  let (v, rest) ← readValue (2 * cs.length + 2) (skipSpace cs)
  if (skipSpace rest).isEmpty then some v else none

end FraudScreen.Json
