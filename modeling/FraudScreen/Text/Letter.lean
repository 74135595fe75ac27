import FraudScreen.Text.Category.Letter
import FraudScreen.Text.Category.Mark
import FraudScreen.Text.Category.Symbol
import FraudScreen.Text.Property

/-!
# Letters and digits

The derived character classes of edition 17, as unions of general categories and of the exceptions to them.
Below 128 the classes are the familiar ones, decided without a table.
-/
namespace FraudScreen.Text

open Category Property

/-- Letters of all five categories. -/
def letters : CodeSet :=
  CodeSet.unions [uppercaseLetter, lowercaseLetter, titlecaseLetter, modifierLetter, otherLetter]

/-- Numerals of all three categories. -/
def numerals : CodeSet := CodeSet.unions [decimalNumber, letterNumber, otherNumber]

/-- Combining marks of all three categories. -/
def marks : CodeSet := CodeSet.unions [nonspacingMark, spacingMark, enclosingMark]

def punctuation : CodeSet :=
  CodeSet.unions [connectorPunctuation, dashPunctuation, openPunctuation, closePunctuation,
    initialPunctuation, finalPunctuation, otherPunctuation]

def symbols : CodeSet := CodeSet.unions [mathSymbol, currencySymbol, modifierSymbol, otherSymbol]

def separators : CodeSet := CodeSet.unions [spaceSeparator, lineSeparator, paragraphSeparator]

/-- Characters without a visible form of their own, unassigned ones left out. -/
def others : CodeSet := CodeSet.unions [control, format, surrogate, privateUse]

/-- All code points to which a character is assigned. -/
def assigned : CodeSet :=
  CodeSet.unions [letters, marks, numerals, punctuation, symbols, separators, others]

def alphabetic : CodeSet := CodeSet.unions [letters, letterNumber, otherAlphabetic]

def uppercase : CodeSet := uppercaseLetter.union otherUppercase

def lowercase : CodeSet := lowercaseLetter.union otherLowercase

/-- The white-space characters as a set; the same ones that `isBlank` accepts. -/
def blanks : CodeSet :=
  ⟨#[9, 14, 32, 33, 133, 134, 160, 161, 5760, 5761, 8192, 8203, 8232, 8234, 8239, 8240, 8287, 8288,
    12288, 12289]⟩

/-- An alphabetic character of any script. -/
def isAlphabetic (c : Char) : Bool :=
  if c.toNat < 128 then c.isAlpha else alphabetic.contains c.toNat

/-- A numeral of any script: a digit, a letter number, a fraction, a superscript. -/
def isNumeric (c : Char) : Bool :=
  if c.toNat < 128 then c.isDigit else numerals.contains c.toNat

/-- An alphabetic character or a numeral. -/
def isAlphanumeric (c : Char) : Bool := isAlphabetic c || isNumeric c

end FraudScreen.Text
