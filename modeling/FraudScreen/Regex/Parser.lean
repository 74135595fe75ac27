import FraudScreen.Regex.Bracket
import FraudScreen.Regex.Footprint
import FraudScreen.Regex.Search

/-!
# Reading regular expressions

Characters stand for themselves, except `\\ . + * ? ( ) | [ ^ $` and an opening brace. Flags change how
the rest of the enclosing group is read. Look-around and references to groups are refused, as are repetitions
of nothing, expressions that are nested too deep, and those whose machine would be too large.
-/
namespace FraudScreen.Regex

/-! ## Repetitions -/

/-- The greatest count of a repetition. -/
def mostCount : Nat := UInt32.size - 1

/-- Digits between which nothing counts but themselves. -/
def readCountDigits (f : Flags) : Nat → List Char → List Char × List Char
  | 0, cs => ([], cs)
  | fuel + 1, cs =>
    match cs with
    | c :: rest =>
      if c.isDigit then
        let (ds, final) := readCountDigits f fuel (f.skip rest)
        (c :: ds, final)
      else ([], cs)
    | [] => ([], [])

/-- A count, perhaps with white space around it. -/
def readCount (f : Flags) (cs : List Char) : Option (Nat × List Char) :=
  let (ds, rest) := readCountDigits f cs.length (Text.trimStart cs)
  let n := Decimal.digitsValue ds
  if ds.isEmpty ∨ mostCount < n then none else some (n, f.skip (Text.trimStart rest))

/-- The counts of a repetition after its opening brace. -/
def readCounts (f : Flags) (cs : List Char) : Option (Nat × Option Nat × List Char) := do
  let (least, rest) ← readCount f (f.skip cs)
  match rest with
  | '\x7d' :: final => some (least, some least, final)
  | ',' :: more =>
    match f.skip more with
    | '\x7d' :: final => some (least, none, final)
    | more => do
      let (most, rest) ← readCount f more
      match rest with
      | '\x7d' :: final => if least ≤ most then some (least, some most, final) else none
      | _ => none
  | _ => none

/-! ## Groups -/

/-- A character of a group name. -/
def isNameCharacter (isFirst : Bool) (c : Char) : Bool :=
  if isFirst then c == '_' || Text.isAlphabetic c
  else ['_', '.', '[', ']'].contains c || Text.isAlphanumeric c

/-- The name of a group up to its closing angle. -/
def readGroupName (cs : List Char) : Option (String × List Char) :=
  let name := cs.takeWhile (· != '>')
  let valid := match name with
    | [] => false
    | c :: rest => isNameCharacter true c && rest.all (isNameCharacter false)
  match cs.drop name.length with
  | _ :: rest => if valid then some (String.ofList name, rest) else none
  | [] => none

/-- Flags up to the colon or parenthesis after them; `given` holds the letters that were given, each of
which may be given once. Also says whether the flags end with a parenthesis. -/
def readFlags (f : Flags) (on : Bool) (given : List Char) : List Char → Option (Flags × Bool × List Char)
  | [] => none
  | c :: rest =>
    if c = ':' ∨ c = ')' then
      if given.head? = some '-' ∨ (c = ')' ∧ given.isEmpty) then none else some (f, c == ')', rest)
    else if given.contains c then none
    else if c = '-' then readFlags f false (c :: given) rest
    else (f.set? c on).bind fun f => readFlags f on (c :: given) rest

/-- What follows an opening parenthesis. -/
inductive GroupStart where
  /-- A change of flags for the rest of the enclosing group. -/
  | flags (f : Flags)
  /-- A group without number. -/
  | plain (f : Flags)
  /-- A numbered group, with the names of groups so far. -/
  | numbered (names : List String)

def readGroupStart (f : Flags) (names : List String) (cs : List Char) : Option (GroupStart × List Char) :=
  let cs := f.skip cs
  let named (rest : List Char) : Option (GroupStart × List Char) := do
    let (name, rest) ← readGroupName rest
    if names.contains name then none else some (.numbered (name :: names), rest)
  match cs with
  | '?' :: 'P' :: '<' :: rest => named rest
  | '?' :: '<' :: rest =>
    match rest with
    | '=' :: _ | '!' :: _ => none
    | _ => named rest
  | '?' :: rest => do
    let (g, alone, rest) ← readFlags f true [] rest
    return (if alone then .flags g else .plain g, rest)
  | _ => some (.numbered names, cs)

/-! ## Expressions -/

/-- A part of a sequence: an expression, or a change of flags, which matches the empty text but cannot be
repeated. The depth counts how groups, repetitions, sequences, alternatives and classes are nested. -/
structure Part where
  regex : Regex
  depth : Nat
  isRepeatable : Bool

namespace Part

/-- A part that is not made of others. -/
def leaf (r : Regex) : Part := ⟨r, 0, true⟩

/-- A change of flags. -/
def directive : Part := ⟨.empty, 0, false⟩

/-- One more than the greatest depth, if there are several parts. -/
def depthOf (ps : List Part) : Nat :=
  match ps with
  | [] => 0
  | [p] => p.depth
  | ps => (ps.map depth).foldl max 0 + 1

/-- The sequence of some parts, given the latest first. -/
def sequence (ps : List Part) : Part := ⟨Regex.sequence (ps.reverse.map regex), depthOf ps, true⟩

/-- The choice between some parts, given the latest first. -/
def alternatives (ps : List Part) : Part :=
  match ps with
  | [p] => p
  | ps => ⟨Regex.alternatives (ps.reverse.map regex), depthOf ps, true⟩

/-- The part repeated. -/
def repeated (p : Part) (least : Nat) (most : Option Nat) (greedy : Bool) : Part :=
  ⟨p.regex.repeated least most greedy, p.depth + 1, true⟩

/-- The part as a group, numbered or not. -/
def grouped (p : Part) (isNumbered : Bool) : Part :=
  ⟨if isNumbered then .group p.regex else p.regex, p.depth + 1, true⟩

end Part

/-- Reads up to the end of a group or of the text, given the flags, the number of open groups, the names of groups
so far, and the alternatives and parts read, the latest first. Every step uses up a character at least, so the
length of the text is fuel enough. -/
def read : Nat → Flags → Nat → List String → List Part → List Part → List Char →
    Option (Part × List String × List Char)
  | 0, _, _, _, _, _, _ => none
  | fuel + 1, f, nesting, names, branches, parts, cs =>
    let more (p : Part) (rest : List Char) := read fuel f nesting names branches (p :: parts) rest
    let leaf (r : Regex) (rest : List Char) := more (.leaf r) rest
    let repeated (least : Nat) (most : Option Nat) (isLazy : Bool) (rest : List Char) :=
      match parts with
      | p :: before =>
        if p.isRepeatable then
          read fuel f nesting names branches (p.repeated least most (isLazy == f.swapGreed) :: before) rest
        else none
      | [] => none
    let simple (least : Nat) (most : Option Nat) (rest : List Char) :=
      match rest with
      | '?' :: rest => repeated least most true rest
      | _ => repeated least most false rest
    match f.skip cs with
    | [] => some (.alternatives (.sequence parts :: branches), names, [])
    | ')' :: rest => some (.alternatives (.sequence parts :: branches), names, ')' :: rest)
    | '|' :: rest => read fuel f nesting names (.sequence parts :: branches) [] rest
    | '*' :: rest => simple 0 none rest
    | '+' :: rest => simple 1 none rest
    | '?' :: rest => simple 0 (some 1) rest
    | '\x7b' :: rest =>
      match readCounts f rest with
      | some (least, most, rest) => simple least most (f.skip rest)
      | none => none
    | '(' :: rest =>
      let group (g : Flags) (isNumbered : Bool) (names : List String) (rest : List Char) :=
        if nesting < deepest then
          match read fuel g (nesting + 1) names [] [] rest with
          | some (p, names, ')' :: rest) =>
            read fuel f nesting names branches (p.grouped isNumbered :: parts) rest
          | _ => none
        else none
      match readGroupStart f names rest with
      | some (.flags g, rest) => read fuel g nesting names branches (.directive :: parts) rest
      | some (.plain g, rest) => group g false names rest
      | some (.numbered names, rest) => group f true names rest
      | none => none
    | '[' :: rest =>
      match readBrackets f rest with
      | some (c, rest) => more ⟨oneOf c.set, c.depth, true⟩ rest
      | none => none
    | '.' :: rest =>
      match f.point? with
      | some s => leaf (oneOf s) rest
      | none => none
    | '^' :: rest => leaf (.look f.start) rest
    | '$' :: rest => leaf (.look f.stop) rest
    | '\\' :: rest =>
      match readEscape f rest with
      | some (.char c, rest) => leaf (f.literal c) rest
      | some (.set s, rest) => leaf (oneOf s) rest
      | some (.look l, rest) => leaf (.look l) rest
      | none => none
    | c :: rest => leaf (f.literal c) rest

/-- Reads a regular expression. -/
def parse (source : List Char) : Option Regex :=
  match read (source.length + 1) .initial 0 [] [] [] source with
  | some (p, _, []) => if p.depth ≤ deepest ∧ p.regex.fits then some p.regex else none
  | _ => none

end FraudScreen.Regex
