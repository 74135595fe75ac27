import FraudScreen.Yaml.Tag

/-!
# Tokens of YAML

The tokens of a document. Indentation becomes tokens of its own: a block collection opens where a line
is indented deeper than the collections around it and closes before the first line that is not. A mapping
key is recognised only when the colon after it is seen; its tokens are then put in front of it.
-/
namespace FraudScreen.Yaml

inductive Token where
  | versionDirective (major minor : Nat)
  | tagDirective (handle : String) (start : Tag)
  | documentStart
  | documentEnd
  | blockSequenceStart
  | blockMappingStart
  | blockEnd
  | flowSequenceStart
  | flowSequenceEnd
  | flowMappingStart
  | flowMappingEnd
  | blockEntry
  | flowEntry
  | key
  | value
  | aliasOf (name : String)
  | anchor (name : String)
  | tag (t : TagToken)
  | scalar (style : Style) (text : String)
deriving DecidableEq, Repr

/-- Where a key may have begun. A required one stands where only a key can stand. -/
structure KeyStart where
  position : Nat
  place : Place
  required : Bool

/-- The state of the scan. -/
structure Scan where
  rest : List Char
  place : Place
  /-- The tokens so far. -/
  emitted : Array Token
  /-- The columns of the open block collections, the innermost first. -/
  indents : List Nat
  /-- The possible key of each open flow collection, the innermost first, and of the block around. -/
  keys : List (Option KeyStart)
  keyAllowed : Bool

namespace Scan

def inFlow (s : Scan) : Bool := 1 < s.keys.length

def emit (s : Scan) (t : Token) : Scan := { s with emitted := s.emitted.push t }

/-- Puts a token in front of the one that has the position `i`. -/
def emitAt (s : Scan) (i : Nat) (t : Token) : Scan :=
  { s with emitted := s.emitted.insertIdxIfInBounds i t }

/-- Passes over `n` characters. -/
def skip (s : Scan) (n : Nat) : Scan :=
  { s with rest := s.rest.drop n, place := s.place.over (s.rest.take n) }

/-- Passes over all characters before `rest`. -/
def skipTo (s : Scan) (rest : List Char) : Scan := s.skip (s.rest.length - rest.length)

/-- The column is deeper than all open block collections. -/
def isDeeper (s : Scan) (column : Nat) : Bool := s.indents.head?.all (· < column)

/-- Opens a block collection at a column that is deeper than the others, with its token at `position`. -/
def openBlock (s : Scan) (column position : Nat) (t : Token) : Scan :=
  if !s.inFlow && s.isDeeper column then
    { s.emitAt position t with indents := column :: s.indents }
  else s

/-- Closes block collections while `deeper` holds of their columns. -/
def closeBlocks (s : Scan) (deeper : Nat → Bool) : Scan :=
  if s.inFlow then s
  else
    let closed := s.indents.takeWhile deeper
    { s with
      emitted := s.emitted ++ Array.replicate closed.length .blockEnd
      indents := s.indents.drop closed.length }

/-- Gives up the possible key of the current collection; a required one must not be given up. -/
def dropKey (s : Scan) : Option Scan :=
  match s.keys with
  | some k :: rest => if k.required then none else some { s with keys := none :: rest }
  | _ => some s

/-- Notes that a key may begin here. -/
def noteKey (s : Scan) : Option Scan :=
  if s.keyAllowed then do
    let required := !s.inFlow && s.indents.head? == some s.place.column
    let s ← s.dropKey
    return { s with keys := some ⟨s.emitted.size, s.place, required⟩ :: s.keys.drop 1 }
  else some s

/-- The greatest number of bytes in a key that is recognised by the colon after it. -/
def mostKeyLength : Nat := 1024

/-- The possible key of the current collection, if it is on this line and not too long. -/
def currentKey (s : Scan) : Option (Option KeyStart) :=
  match s.keys with
  | some k :: _ =>
    if k.place.line < s.place.line ∨ k.place.offset + mostKeyLength < s.place.offset then
      (if k.required then none else some none)
    else some (some k)
  | _ => some none

/-- The byte order mark. -/
def isByteOrderMark (c : Char) : Bool := c.toNat == 0xFEFF

/-- Passes over white space and comments. A tab does not indent. A byte order mark may begin any line; it
takes its column. -/
def skipBlanks (inFlow : Bool) (keyAllowed : Bool) (inComment : Bool) (p : Place) :
    List Char → Bool × Place × List Char
  | [] => (keyAllowed, p, [])
  | c :: rest =>
    if isBreak c then skipBlanks inFlow (keyAllowed || !inFlow) false (p.after c) rest
    else if inComment || c == '#' then skipBlanks inFlow keyAllowed true (p.after c) rest
    else if c == ' ' || (c == '\t' && (inFlow || !keyAllowed)) ||
        (isByteOrderMark c && p.column == 0) then
      skipBlanks inFlow keyAllowed false (p.after c) rest
    else (keyAllowed, p, c :: rest)

/-- Moves to the next token. -/
def advance (s : Scan) : Scan :=
  let (keyAllowed, place, rest) := skipBlanks s.inFlow s.keyAllowed false s.place s.rest
  { s with keyAllowed, place, rest }

/-- Opens a flow collection. -/
def openFlow (s : Scan) (t : Token) : Option Scan := do
  let s ← s.noteKey
  return ({ s with keys := none :: s.keys, keyAllowed := true }.skip 1).emit t

/-- Closes a flow collection. -/
def closeFlow (s : Scan) (t : Token) : Option Scan := do
  let s ← s.dropKey
  let keys := if s.inFlow then s.keys.drop 1 else s.keys
  return ({ s with keys := keys, keyAllowed := false }.skip 1).emit t

/-- An entry of a block sequence, or the mark of an explicit key. -/
def blockMark (s : Scan) (opening mark : Token) (keyAfter : Bool) : Option Scan :=
  if !s.inFlow && !s.keyAllowed then none
  else do
    let s := s.openBlock s.place.column s.emitted.size opening
    let s ← s.dropKey
    return ({ s with keyAllowed := keyAfter }.skip 1).emit mark

/-- The colon between a key and its value. -/
def valueMark (s : Scan) : Option Scan := do
  match ← s.currentKey with
  | some k =>
    let s := s.emitAt k.position .key
    let s := s.openBlock k.place.column k.position .blockMappingStart
    return ({ s with keys := none :: s.keys.drop 1, keyAllowed := false }.skip 1).emit .value
  | none =>
    if !s.inFlow && !s.keyAllowed then none
    else
      let s := s.openBlock s.place.column s.emitted.size .blockMappingStart
      return ({ s with keys := none :: s.keys.drop 1, keyAllowed := !s.inFlow }.skip 1).emit .value

/-- The name of an anchor or alias after its mark. -/
def readName (s : Scan) (t : String → Token) : Option Scan := do
  let s ← s.noteKey
  let s := { s with keyAllowed := false }.skip 1
  let name := s.rest.takeWhile isNameChar
  let after := s.rest.drop name.length
  let ended := atBlank after ||
    after.head?.any (['?', ':', ',', ']', '\x7d', '%', '@', '\x60'].contains ·)
  if name.isEmpty || !ended then none else return (s.skip name.length).emit (t (String.ofList name))

/-- The tag after its mark. What follows it must be white space, or a comma inside a flow collection. -/
def readTag (s : Scan) : Option Scan := do
  let s ← s.noteKey
  let s := { s with keyAllowed := false }.skip 1
  let (t, after) ← TagToken.read? s.rest
  if atBlank after || (s.inFlow && after.head? == some ',') then return (s.skipTo after).emit (.tag t)
  else none

/-- Goes on after a scalar. -/
def afterScalar (s : Scan) (style : Style) (g : Gathered) : Scan :=
  { s with rest := g.rest, place := g.place, keyAllowed := s.keyAllowed || g.atLineStart }.emit
    (.scalar style g.text)

def quoted (s : Scan) (gather : Place → Gap → List Char → List Char → Option Gathered) :
    Option Scan := do
  let s ← s.noteKey
  let s := { s with keyAllowed := false }.skip 1
  return s.afterScalar .quoted (← gather s.place .none [] s.rest)

def plain (s : Scan) : Option Scan := do
  let s ← s.noteKey
  let s := { s with keyAllowed := false }
  let indent := match s.indents with
    | column :: _ => column + 1
    | [] => 0
  return s.afterScalar .plain (← gatherPlain s.inFlow indent s.place .none [] s.rest)

def block (s : Scan) (style : Style) : Option Scan := do
  let s ← s.dropKey
  let s := { s with keyAllowed := true }.skip 1
  return s.afterScalar style (← gatherBlock (style = .folded) s.indents.head? s.place s.rest)

/-- A mark between documents. -/
def documentMark (s : Scan) (t : Token) : Option Scan := do
  let s ← (s.closeBlocks fun _ => true).dropKey
  return ({ s with keyAllowed := false }.skip 3).emit t

/-- A number of a version has one to nine digits. -/
def versionNumber? (cs : List Char) : Option (Nat × List Char) :=
  let digits := cs.takeWhile Char.isDigit
  if digits = [] ∨ 9 < digits.length then none
  else some (Nat.ofDigitChars 10 digits 0, cs.drop digits.length)

/-- A version, with what follows it. -/
def version? (cs : List Char) : Option (Token × List Char) := do
  let (major, rest) ← versionNumber? cs
  match rest with
  | '.' :: rest =>
    let (minor, rest) ← versionNumber? rest
    return (.versionDirective major minor, rest)
  | _ => none

/-- A handle and the start of the tags that have it, with what follows them. -/
def tagStart? : List Char → Option (Token × List Char)
  | '!' :: cs => do
    let name := cs.takeWhile isNameChar
    let (handle, rest) ← match cs.drop name.length with
      | '!' :: rest => some ('!' :: name ++ ['!'], rest)
      | rest => if name = [] then some (['!'], rest) else none
    let spaced := rest.dropWhile isSpaceOrTab
    let uri := spaced.takeWhile (isTagChar true)
    let after := spaced.drop uri.length
    if spaced.length = rest.length ∨ uri = [] ∨ !atBlank after then none
    else return (.tagDirective (String.ofList handle) (← Tag.part? uri), after)
  | _ => none

/-- A directive takes up its line. -/
def directive (s : Scan) : Option Scan := do
  let s ← (s.closeBlocks fun _ => true).dropKey
  let name := (s.rest.drop 1).takeWhile isNameChar
  let after := s.rest.drop (1 + name.length)
  let content := after.dropWhile isSpaceOrTab
  let (t, rest) ←
    if !atBlank after then none
    else if name = ['Y', 'A', 'M', 'L'] then version? content
    else if name = ['T', 'A', 'G'] then tagStart? content
    else none
  return ({ s with keyAllowed := false }.skipTo (← restOfLine rest)).emit t

/-- Characters that no plain scalar begins with, unless what follows makes them ordinary. -/
def isIndicator (c : Char) : Bool :=
  ['-', '?', ':', ',', '[', ']', '\x7b', '\x7d', '#', '&', '*', '!', '|', '>', '\'', '"', '%', '@',
    '\x60'].contains c

/-- Scans one token; at the end, all block collections close. -/
def token (s : Scan) : Option Scan :=
  let s := s.closeBlocks (s.place.column < ·)
  let lineStart := s.place.column == 0
  match s.rest with
  | [] => (s.closeBlocks fun _ => true).dropKey
  | c :: rest =>
    let beforeBlank := atBlank rest
    if lineStart && c == '%' then s.directive
    else if lineStart && atDocumentMark (c :: rest) then
      s.documentMark (if c == '-' then .documentStart else .documentEnd)
    else if c == '[' then s.openFlow .flowSequenceStart
    else if c == '\x7b' then s.openFlow .flowMappingStart
    else if c == ']' then s.closeFlow .flowSequenceEnd
    else if c == '\x7d' then s.closeFlow .flowMappingEnd
    else if c == ',' then do
      let s ← s.dropKey
      return ({ s with keyAllowed := true }.skip 1).emit .flowEntry
    else if c == '-' && beforeBlank then s.blockMark .blockSequenceStart .blockEntry true
    else if c == '?' && (s.inFlow || beforeBlank) then
      s.blockMark .blockMappingStart .key (!s.inFlow)
    else if c == ':' && (s.inFlow || beforeBlank) then s.valueMark
    else if c == '*' then s.readName .aliasOf
    else if c == '&' then s.readName .anchor
    else if c == '!' then s.readTag
    else if c == '|' && !s.inFlow then s.block .literal
    else if c == '>' && !s.inFlow then s.block .folded
    else if c == '\'' then s.quoted gatherSingle
    else if c == '"' then s.quoted gatherDouble
    else if isSpaceOrTab c then none
    else if !isIndicator c || (c == '-' && !beforeBlank) ||
        (!s.inFlow && (c == '?' || c == ':') && !beforeBlank) then s.plain
    else none

/-- Scans to the end. Every token uses up at least one character. -/
def run : Nat → Scan → Option (List Token)
  | 0, _ => none
  | fuel + 1, s =>
    let s := s.advance
    match s.rest with
    | [] => s.token.map (·.emitted.toList)
    | _ => s.token.bind (run fuel)

end Scan

/-- The characters that a document may hold. -/
def isAllowed (c : Char) : Bool :=
  let n := c.toNat
  n == 9 || n == 10 || n == 13 || (32 ≤ n && n ≤ 126) || n == 133 || (160 ≤ n && n ≤ 0xFFFD) ||
    0x10000 ≤ n

/-- Makes line feeds of carriage returns, of both together, and of next lines. -/
def unifyBreaks : List Char → List Char
  | [] => []
  | '\r' :: '\n' :: rest => '\n' :: unifyBreaks rest
  | '\r' :: rest => '\n' :: unifyBreaks rest
  | c :: rest => (if c.toNat = 133 then '\n' else c) :: unifyBreaks rest

/-- The tokens of a text. -/
def Token.scan (s : String) : Option (List Token) :=
  if s.toList.all isAllowed then
    let cs := unifyBreaks s.toList
    Scan.run (cs.length + 1) ⟨cs, .start, #[], [], [none], true⟩
  else none

end FraudScreen.Yaml
