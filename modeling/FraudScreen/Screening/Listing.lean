import FraudScreen.File
import FraudScreen.Network.Block
import FraudScreen.Screening.Pattern

/-!
# Pattern lists

A list holds one pattern a line. Blanks around a line do not count, and neither do empty lines and lines
that start with a hash. The patterns are numbered in order, without gaps.
-/
namespace FraudScreen.Screening

/-- What a line looks like: a block of addresses if it has a slash and a point or colon, a glob if it
has a star, otherwise a literal. -/
def Kind.ofLine (line : List Char) : Kind :=
  if line.contains '/' && (line.contains '.' || line.contains ':') then .cidr
  else if line.contains '*' then .wildcard
  else .exact

/-- The pattern of a line. What looks like a block and is none is taken as a literal. -/
def Pattern.ofLine (id : UInt32) (category : String) (line : List Char) : Pattern :=
  match Kind.ofLine line with
  | .cidr =>
    match Network.Block.read? line with
    | .ok b => .make id (String.ofList b.source) category .cidr true
    | .error _ => .exact id (String.ofList line) category
  | .wildcard => .wildcard id (String.ofList line) category
  | .exact => .exact id (String.ofList line) category

/-- The line holds a pattern. -/
def isEntry (line : List Char) : Bool := !line.isEmpty && line.head? != some '#'

/-- The patterns of some lines, numbered from `id` on. Lines that hold no pattern take no number. -/
def readLines (category : String) (id : UInt32) : List (List Char) → List Pattern
  | [] => []
  | line :: rest =>
    let entry := Text.trim line
    if isEntry entry then .ofLine id category entry :: readLines category (id + 1) rest
    else readLines category id rest

/-- The patterns of a list, numbered from `firstId` on. -/
def readList (text category : String) (firstId : UInt32) : List Pattern :=
  readLines category firstId (text.toList.splitOn '\n')

/-- The patterns of the list in a file. -/
def readListFile (file : File) (category : String) (firstId : UInt32) : Except ReadFault (List Pattern) :=
  file.readText.map (readList · category firstId)

/-- The number that follows those of a list of patterns. -/
def nextIdAfter (ps : List Pattern) : UInt32 := (ps.getLast?.map (·.id + 1)).getD 1

end FraudScreen.Screening
