import FraudScreen.Decimal.Reader
import FraudScreen.Regex.Flags

/-!
# Escapes

What a backslash and the characters after it stand for: a character, a class of characters, or a condition on a
place. Unknown escapes of letters and escapes of digits are refused.
-/
namespace FraudScreen.Regex

open Text (CodeSet)

/-- Characters that mean something else than themselves somewhere. -/
def metaCharacters : List Char :=
  ['\\', '.', '+', '*', '?', '(', ')', '|', '[', ']', '\x7b', '\x7d', '^', '$', '#', '&', '-', '~']

/-- What an escape stands for. -/
inductive Escape where
  | char (c : Char)
  | set (s : CodeSet)
  | look (l : Look)

/-! ## Numbers and names -/

/-- So many hexadecimal digits more. -/
def readHexDigits (f : Flags) : Nat → List Char → List Char → Option (List Char × List Char)
  | 0, ds, cs => some (ds, cs)
  | n + 1, ds, cs =>
    match f.skip cs with
    | c :: rest => if (Decimal.hexValue? c).isSome then readHexDigits f n (ds ++ [c]) rest else none
    | [] => none

/-- What counts of a text up to a closing brace, and what follows the brace. The length of the text is fuel
enough. -/
def readBraced (f : Flags) : Nat → List Char → Option (List Char × List Char)
  | 0, _ => none
  | fuel + 1, cs =>
    match f.skip cs with
    | [] => none
    | c :: rest =>
      if c = '\x7d' then some ([], rest)
      else (readBraced f fuel rest).map fun (inner, rest) => (c :: inner, rest)

/-- The character with a number in hexadecimal digits. -/
def charOfHex? (ds : List Char) : Option Char := do
  let n ← if ds.isEmpty then none else Decimal.hexValueOf? ds
  if n.isValidChar then some (Char.ofNat n) else none

/-- A character by its number: two, four or eight digits, or any number of them in braces. Two digits are one byte,
which without Unicode is a character only if it is an ASCII one. -/
def readHex (f : Flags) (digits : Nat) (cs : List Char) : Option (Char × List Char) :=
  match f.skip cs with
  | '\x7b' :: rest => do
    let (ds, rest) ← readBraced f (rest.length + 1) rest
    return (← charOfHex? ds, rest)
  | cs => do
    let (ds, rest) ← readHexDigits f digits [] cs
    let c ← charOfHex? ds
    if f.asciiOnly ∧ digits = 2 ∧ 128 ≤ c.toNat then none else some (c, rest)

/-- A property by its name: one letter, or a name in braces. -/
def readProperty (f : Flags) (negated : Bool) (cs : List Char) : Option (CodeSet × List Char) := do
  let (name, rest) ← match f.skip cs with
    | '\x7b' :: rest => readBraced f (rest.length + 1) rest
    | c :: rest => if c = '\\' then none else some ([c], rest)
    | [] => none
  let (s, others) ← if f.asciiOnly then none else Property.read? name
  return (← f.close? (negated != others) s, rest)

/-! ## Edges of words -/

/-- A character of the name of an edge. -/
def isEdgeCharacter (c : Char) : Bool := c.isAlpha || c == '-'

/-- The characters that may name an edge, up to the first other one. -/
def readEdgeName (f : Flags) : Nat → List Char → List Char × List Char
  | 0, cs => ([], cs)
  | fuel + 1, cs =>
    match cs with
    | c :: rest =>
      if isEdgeCharacter c then
        let (name, rest) := readEdgeName f fuel (f.skip rest)
        (c :: name, rest)
      else ([], cs)
    | [] => ([], [])

/-- The edge with a name. -/
def edge? (name : List Char) : Option WordEdge :=
  match String.ofList name with
  | "start" => some .start
  | "end" => some .stop
  | "start-half" => some .startHalf
  | "end-half" => some .stopHalf
  | _ => none

/-- The edge after its first letter. A brace begins a name if a letter or hyphen follows it, and a repetition if
not. -/
def readEdge (f : Flags) (cs : List Char) : Option (WordEdge × List Char) :=
  match cs with
  | '\x7b' :: rest =>
    match f.skip rest with
    | [] => none
    | c :: more =>
      if isEdgeCharacter c then
        match readEdgeName f (more.length + 1) (c :: more) with
        | (name, '\x7d' :: rest) => (edge? name).map (·, rest)
        | _ => none
      else some (.boundary, cs)
  | _ => some (.boundary, cs)

/-! ## Escapes -/

/-- An escape after its backslash. -/
def readEscape (f : Flags) (cs : List Char) : Option (Escape × List Char) :=
  match cs with
  | [] => none
  | c :: rest =>
    let set (negated : Bool) (h : Shorthand) := (f.shorthand? negated h).map fun s => (Escape.set s, rest)
    let char (n : Nat) := some (Escape.char (Char.ofNat n), rest)
    let look (l : Look) := some (Escape.look l, rest)
    let hex (n : Nat) := (readHex f n rest).map fun (c, rest) => (Escape.char c, rest)
    let property (negated : Bool) :=
      (readProperty f negated rest).map fun (s, rest) => (Escape.set s, rest)
    if metaCharacters.contains c then some (.char c, rest)
    else if c = '<' then look (.word .start f.asciiOnly)
    else if c = '>' then look (.word .stop f.asciiOnly)
    else if c.toNat < 128 ∧ !c.isAlphanum then some (.char c, rest)
    else match c with
      | 'd' => set false .digit
      | 'D' => set true .digit
      | 's' => set false .space
      | 'S' => set true .space
      | 'w' => set false .word
      | 'W' => set true .word
      | 'p' => property false
      | 'P' => property true
      | 'x' => hex 2
      | 'u' => hex 4
      | 'U' => hex 8
      | 'a' => char 7
      | 't' => char 9
      | 'n' => char 10
      | 'v' => char 11
      | 'f' => char 12
      | 'r' => char 13
      | 'A' => look .textStart
      | 'z' => look .textEnd
      | 'b' => (readEdge f rest).map fun (e, rest) => (.look (.word e f.asciiOnly), rest)
      | 'B' => look (.word .noBoundary f.asciiOnly)
      | _ => none

/-- The text that reads as the characters of `cs`: a backslash before every one that may mean something
else. -/
def escape (cs : List Char) : List Char :=
  cs.flatMap fun c => if metaCharacters.contains c then ['\\', c] else [c]

end FraudScreen.Regex
