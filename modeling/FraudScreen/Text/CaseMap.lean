import FraudScreen.Text.CaseTable
import FraudScreen.Text.Letter

/-!
# Upper and lower case

Case conversion of whole texts. A character may grow into several, and a capital sigma at the end of
a word becomes a final sigma: one that follows a cased character and does not stand before one, where
marks and apostrophe-like characters on the way do not count.
-/
namespace FraudScreen.Text

open Category Property CaseTable

/-- Characters that have case. -/
def casedCharacters : CodeSet :=
  CodeSet.unions [uppercaseLetter, lowercaseLetter, titlecaseLetter, otherLowercase, otherUppercase]

/-- Characters that do not interrupt a word. -/
def caseIgnorableCharacters : CodeSet :=
  CodeSet.unions [nonspacingMark, enclosingMark, format, modifierLetter, modifierSymbol,
    otherCaseIgnorable]

/-- The image of a code point under the first run that holds it. -/
def imageIn? (runs : List Run) (n : Nat) : Option Nat := runs.findSome? (·.image? n)

/-- The lowercase form of one character. -/
def lowerChar (c : Char) : List Char :=
  if c.toNat < 128 then [c.toLower]
  else if c.toNat == 0x130 then ['i', Char.ofNat 0x307]
  else [Char.ofNat ((imageIn? lower c.toNat).getD c.toNat)]

/-- The uppercase form of one character. -/
def upperChar (c : Char) : List Char :=
  if c.toNat < 128 then [c.toUpper]
  else match upperSequences.lookup c.toNat with
    | some ns => ns.map Char.ofNat
    | none => [Char.ofNat ((imageIn? upper c.toNat).getD c.toNat)]

/-- The first character of `cs` that is not case-ignorable has case. -/
def meetsCased (cs : List Char) : Bool :=
  match cs.dropWhile (caseIgnorableCharacters.contains ·.toNat) with
  | [] => false
  | c :: _ => casedCharacters.contains c.toNat

/-- Lowercases a text; `before` holds the characters already passed, the nearest first. -/
def lowerText (before : List Char) : List Char → List Char
  | [] => []
  | c :: rest =>
    let form :=
      if c.toNat == 0x3A3 then
        [if meetsCased before && !meetsCased rest then Char.ofNat 0x3C2 else Char.ofNat 0x3C3]
      else lowerChar c
    form ++ lowerText (c :: before) rest

/-- The lowercase form of a text. -/
def toLower (s : String) : String := String.ofList (lowerText [] s.toList)

/-- The uppercase form of a text. -/
def toUpper (s : String) : String := String.ofList (s.toList.flatMap upperChar)

end FraudScreen.Text
