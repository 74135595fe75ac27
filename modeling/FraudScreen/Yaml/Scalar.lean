import FraudScreen.Decimal.Reader

/-!
# Scalars of YAML

How the text of a scalar is gathered from the document: plain, in quotes, or as a block of lines. Inside
plain and quoted scalars a single line break reads as a space, and of several the first is dropped. All
functions take the text after their opening mark and keep count of where they are. What has been gathered
is kept with its last character first.
-/
namespace FraudScreen.Yaml

/-- How a scalar is written: a block of lines keeps its breaks if it is literal. -/
inductive Style where
  | plain
  | quoted
  | literal
  | folded
deriving DecidableEq, Repr

/-- A line break. Carriage returns and next lines are line feeds already. -/
def isBreak (c : Char) : Bool := c == '\n' || c.toNat == 0x2028 || c.toNat == 0x2029

def isSpaceOrTab (c : Char) : Bool := c == ' ' || c == '\t'

/-- The text is at its end or goes on with white space. -/
def atBlank : List Char → Bool
  | [] => true
  | c :: _ => isSpaceOrTab c || isBreak c

/-- The text goes on with the mark between documents, or with the mark at the end of one. -/
def atDocumentMark : List Char → Bool
  | a :: b :: c :: rest =>
    a == b && b == c && (a == '-' || a == '.') && atBlank rest
  | _ => false

/-- A place in the document: columns are counted in characters, the whole text before it in bytes. -/
structure Place where
  line : Nat
  column : Nat
  offset : Nat

/-- The start of a document. -/
def Place.start : Place := ⟨0, 0, 0⟩

/-- The place after the character `c`. -/
def Place.after (p : Place) (c : Char) : Place :=
  if isBreak c then ⟨p.line + 1, 0, p.offset + c.utf8Size⟩
  else ⟨p.line, p.column + 1, p.offset + c.utf8Size⟩

/-- The place after a text. -/
def Place.over (p : Place) (cs : List Char) : Place := cs.foldl Place.after p

/-- White space inside a scalar that may yet turn out to be part of it, the last character first. -/
inductive Gap where
  | none
  | spaces (cs : List Char)
  /-- The first line break, missing if it was escaped, and the others; blanks around them do not count. -/
  | breaks (first : Option Char) (more : List Char)

namespace Gap

/-- What was gathered before the gap, with what the gap reads as. -/
def onto (acc : List Char) : Gap → List Char
  | none => acc
  | spaces cs => cs ++ acc
  | breaks (some '\n') [] => ' ' :: acc
  | breaks (some '\n') more => more ++ acc
  | breaks (some c) more => more ++ c :: acc
  | breaks .none more => more ++ acc

def isEmpty : Gap → Bool
  | none => true
  | _ => false

def hasBreak : Gap → Bool
  | breaks _ _ => true
  | _ => false

/-- The gap with one more space, tab or line break. -/
def add (g : Gap) (c : Char) : Gap :=
  if isBreak c then
    match g with
    | breaks first more => breaks first (c :: more)
    | _ => breaks (some c) []
  else
    match g with
    | none => spaces [c]
    | spaces cs => spaces (c :: cs)
    | breaks first more => breaks first more

end Gap

/-- A scalar that was read, and what follows it. -/
structure Gathered where
  text : String
  place : Place
  rest : List Char
  /-- The scalar ended at the start of a line. -/
  atLineStart : Bool

/-- Characters that structure flow collections. -/
def isFlowMark (c : Char) : Bool := [',', '[', ']', '\x7b', '\x7d'].contains c

/-- The text that was gathered. -/
def finished (acc : List Char) : String := String.ofList acc.reverse

/-- Gathers a plain scalar that must be indented by `indent`. -/
def gatherPlain (inFlow : Bool) (indent : Nat) (p : Place) (gap : Gap) (acc : List Char) :
    List Char → Option Gathered
  | [] => some ⟨finished acc, p, [], gap.hasBreak⟩
  | c :: rest =>
    if isSpaceOrTab c || isBreak c then
      if c == '\t' && gap.hasBreak && p.column < indent then none
      else gatherPlain inFlow indent (p.after c) (gap.add c) acc rest
    else
      let fresh := !gap.isEmpty || acc.isEmpty
      if (!gap.isEmpty && !inFlow && p.column < indent) || (p.column == 0 && atDocumentMark (c :: rest)) ||
          (fresh && c == '#') then
        some ⟨finished acc, p, c :: rest, gap.hasBreak⟩
      else if inFlow && c == ':' && rest.head?.any (fun d => isFlowMark d || d == '?') then none
      else if (c == ':' && atBlank rest) || (inFlow && isFlowMark c) then
        some ⟨finished acc, p, c :: rest, gap.hasBreak⟩
      else gatherPlain inFlow indent (p.after c) .none (c :: gap.onto acc) rest

/-- Gathers a scalar in single quotes, in which a quote is written twice. -/
def gatherSingle (p : Place) (gap : Gap) (acc : List Char) : List Char → Option Gathered
  | [] => none
  | '\'' :: '\'' :: rest =>
    gatherSingle ((p.after '\'').after '\'') .none ('\'' :: gap.onto acc) rest
  | '\'' :: rest => some ⟨finished (gap.onto acc), p.after '\'', rest, false⟩
  | c :: rest =>
    if p.column == 0 && atDocumentMark (c :: rest) then none
    else if isSpaceOrTab c || isBreak c then gatherSingle (p.after c) (gap.add c) acc rest
    else gatherSingle (p.after c) .none (c :: gap.onto acc) rest

/-- The character of a one-letter escape. -/
def shortEscape? (c : Char) : Option Char :=
  [('0', 0), ('a', 7), ('b', 8), ('t', 9), ('\t', 9), ('n', 10), ('v', 11), ('f', 12), ('r', 13),
    ('e', 27), (' ', 32), ('"', 34), ('/', 47), ('\\', 92), ('N', 0x85), ('_', 0xA0), ('L', 0x2028),
    ('P', 0x2029)].lookup c |>.map Char.ofNat

/-- The number of hexadecimal digits after an escape letter. -/
def escapeDigits? (c : Char) : Option Nat := [('x', 2), ('u', 4), ('U', 8)].lookup c

/-- The character with a code point, if it has one. -/
def charOf? (n : Nat) : Option Char := if n.isValidChar then some (Char.ofNat n) else none

/-- Gathers a scalar in double quotes. -/
def gatherDouble (p : Place) (gap : Gap) (acc : List Char) (cs : List Char) : Option Gathered :=
  match cs with
  | [] => none
  | '"' :: rest => some ⟨finished (gap.onto acc), p.after '"', rest, false⟩
  | '\\' :: [] => none
  | '\\' :: c :: rest =>
    let after := (p.after '\\').after c
    if isBreak c then gatherDouble after (.breaks .none []) (gap.onto acc) rest
    else
      match shortEscape? c with
      | some e => gatherDouble after .none (e :: gap.onto acc) rest
      | .none =>
        match escapeDigits? c with
        | .none => none
        | some n =>
          if (rest.take n).length < n then none
          else
            match (Decimal.hexValueOf? (rest.take n)).bind charOf? with
            | some e =>
              gatherDouble (after.over (rest.take n)) .none (e :: gap.onto acc) (rest.drop n)
            | .none => none
  | c :: rest =>
    if p.column == 0 && atDocumentMark (c :: rest) then none
    else if isSpaceOrTab c || isBreak c then gatherDouble (p.after c) (gap.add c) acc rest
    else gatherDouble (p.after c) .none (c :: gap.onto acc) rest
termination_by cs.length

/-! ## Blocks of lines -/

/-- What happens to the line breaks at the end of a block. -/
inductive Chomping where
  | clip
  | strip
  | keep

/-- Empty lines before the next line of a block: how far they were indented, their breaks, and what
follows. `indent` is zero while the indentation is not known. -/
structure EmptyLines where
  deepest : Nat
  breaks : List Char
  place : Place
  rest : List Char

/-- Passes over empty lines and over the indentation of the line after them. -/
def skipEmptyLines (indent : Nat) (deepest : Nat) (breaks : List Char) (p : Place) :
    List Char → Option EmptyLines
  | [] => some ⟨deepest, breaks, p, []⟩
  | c :: rest =>
    let inIndent := indent == 0 || p.column < indent
    if c == ' ' && inIndent then
      skipEmptyLines indent (max deepest (p.column + 1)) breaks (p.after c) rest
    else if c == '\t' && inIndent then none
    else if isBreak c then skipEmptyLines indent deepest (c :: breaks) (p.after c) rest
    else some ⟨deepest, breaks, p, c :: rest⟩

/-- The lines of a block. `lead` is the break after the last line, if there was one; `blankLead` says
that the last line began with white space, and then its break is not folded. -/
def gatherLines (folded : Bool) (chomping : Chomping) (indent : Nat) :
    Nat → List Char → List Char → Bool → EmptyLines → Option Gathered
  | 0, _, _, _, _ => none
  | fuel + 1, acc, lead, blankLead, gap =>
    match gap.rest with
    | c :: more =>
      if gap.place.column == indent then
        let blank := isSpaceOrTab c
        let joint :=
          if folded && lead == ['\n'] && !blankLead && !blank then
            (if gap.breaks.isEmpty then [' '] else [])
          else lead
        let line := (c :: more).takeWhile (!isBreak ·)
        let after := (c :: more).drop line.length
        let lead := after.take 1
        match skipEmptyLines indent 0 [] ((gap.place.over line).over lead) (after.drop 1) with
        | some next =>
          gatherLines folded chomping indent fuel (line.reverseAux (gap.breaks ++ joint ++ acc)) lead
            blank next
        | none => none
      else some (finish acc lead gap)
    | [] => some (finish acc lead gap)
where
  /-- Ends the block as the chomping says. -/
  finish (acc lead : List Char) (gap : EmptyLines) : Gathered :=
    let tail := match chomping with
      | .strip => []
      | .clip => lead
      | .keep => gap.breaks ++ lead
    ⟨finished (tail ++ acc), gap.place, gap.rest, true⟩

/-- What follows the line, on which only blanks and a comment may be left. -/
def restOfLine (cs : List Char) : Option (List Char) :=
  let rest := cs.dropWhile isSpaceOrTab
  match if rest.head? = some '#' then rest.dropWhile (!isBreak ·) else rest with
  | [] => some []
  | b :: more => if isBreak b then some more else none

/-- The marks after the opening of a block: chomping and indentation, in either order. -/
def blockHeader (cs : List Char) : Option (Chomping × Option Nat × List Char) :=
  let chomp? (c : Char) : Option Chomping :=
    if c = '+' then some .keep else if c = '-' then some .strip else none
  let depth? (c : Char) : Option Nat := if '1' ≤ c ∧ c ≤ '9' then some (c.toNat - 48) else none
  match cs with
  | a :: rest =>
    match chomp? a, depth? a with
    | some ch, _ =>
      match rest with
      | b :: more => if b = '0' then none else
        match depth? b with
        | some n => some (ch, some n, more)
        | none => some (ch, none, rest)
      | [] => some (ch, none, rest)
    | none, some n =>
      match rest with
      | b :: more =>
        match chomp? b with
        | some ch => some (ch, some n, more)
        | none => some (.clip, some n, rest)
      | [] => some (.clip, some n, rest)
    | none, none => if a = '0' then none else some (.clip, none, cs)
  | [] => some (.clip, none, [])

/-- Gathers a block of lines after its opening mark. `parent` is the indentation of the enclosing
collection, if there is one. -/
def gatherBlock (folded : Bool) (parent : Option Nat) (p : Place) (cs : List Char) :
    Option Gathered := do
  let (chomping, depth, rest) ← blockHeader cs
  let body ← restOfLine rest
  let p := p.over (cs.take (cs.length - body.length))
  let least := match parent with
    | some n => n + 1
    | none => 1
  let given := match depth with
    | some n => (match parent with | some m => m + n | none => n)
    | none => 0
  let gap ← skipEmptyLines given 0 [] p body
  let indent := if given = 0 then max gap.deepest least else given
  gatherLines folded chomping indent (body.length + 1) [] [] false gap

end FraudScreen.Yaml
