import FraudScreen.Text.Age
import FraudScreen.Text.Letter
import FraudScreen.Text.Property.Writing

/-!
# The characters that patterns know

Patterns keep to edition 16 of the character database: what edition 17 added is unassigned to them, and the
one letter whose category it changed has the category it had before.
-/
namespace FraudScreen.Regex

open Text (CodeSet)

/-- All characters: the code points but for the surrogates. -/
def scalars : CodeSet := ⟨#[0, 0xD800, 0xE000, 0x110000]⟩

/-- The characters that are not in a set. -/
def negate (s : CodeSet) : CodeSet := scalars.diff s

namespace Property

open Text.Property

/-- What patterns know of a set of edition 17. -/
def known (s : CodeSet) : CodeSet := s.diff Text.Age.newest

/-- The pharyngeal voiced fricative, a lowercase letter up to edition 16 and a letter without case since. -/
def pharyngealFricative : CodeSet := .single 0x295

def uppercaseLetter : CodeSet := known Text.Category.uppercaseLetter

def lowercaseLetter : CodeSet := (known Text.Category.lowercaseLetter).union pharyngealFricative

def titlecaseLetter : CodeSet := known Text.Category.titlecaseLetter

def modifierLetter : CodeSet := known Text.Category.modifierLetter

def otherLetter : CodeSet := (known Text.Category.otherLetter).diff pharyngealFricative

def nonspacingMark : CodeSet := known Text.Category.nonspacingMark

def spacingMark : CodeSet := known Text.Category.spacingMark

def enclosingMark : CodeSet := Text.Category.enclosingMark

def decimalNumber : CodeSet := known Text.Category.decimalNumber

def letterNumber : CodeSet := known Text.Category.letterNumber

def connectorPunctuation : CodeSet := known Text.Category.connectorPunctuation

def format : CodeSet := known Text.Category.format

def letters : CodeSet := known Text.letters

def marks : CodeSet := known Text.marks

def assigned : CodeSet := (known Text.assigned).inter scalars

def alphabetic : CodeSet := known Text.alphabetic

def lowercase : CodeSet := lowercaseLetter.union (known otherLowercase)

def uppercase : CodeSet := uppercaseLetter.union (known otherUppercase)

def cased : CodeSet := CodeSet.unions [lowercase, uppercase, titlecaseLetter]

def graphemeExtend : CodeSet := CodeSet.unions [nonspacingMark, enclosingMark, known otherGraphemeExtend]

/-- Characters of words: alphabetic ones, marks, digits, connectors and the two joiners. -/
def word : CodeSet := CodeSet.unions [alphabetic, marks, decimalNumber, connectorPunctuation, joinControl]

end Property

/-- A character that a word goes on with. -/
def isWordCharacter (c : Char) : Bool :=
  if c.toNat < 128 then c.isAlphanum || c == '_' else Property.word.contains c.toNat

end FraudScreen.Regex
