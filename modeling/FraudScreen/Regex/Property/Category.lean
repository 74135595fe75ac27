import FraudScreen.Regex.Property.Edition

/-!
# General categories by name

The categories and their unions, by their short and long names without capitals and separators. There is no
name for the surrogates, which no text holds.
-/
namespace FraudScreen.Regex.Property

open Text (CodeSet)

/-- The characters of a category. -/
def category? : String → Option CodeSet
  | "l" | "letter" => some letters
  | "lu" | "uppercaseletter" => some uppercaseLetter
  | "ll" | "lowercaseletter" => some lowercaseLetter
  | "lt" | "titlecaseletter" => some titlecaseLetter
  | "lc" | "casedletter" => some (CodeSet.unions [uppercaseLetter, lowercaseLetter, titlecaseLetter])
  | "lm" | "modifierletter" => some modifierLetter
  | "lo" | "otherletter" => some otherLetter
  | "m" | "mark" | "combiningmark" => some marks
  | "mn" | "nonspacingmark" => some nonspacingMark
  | "mc" | "spacingmark" => some spacingMark
  | "me" | "enclosingmark" => some enclosingMark
  | "n" | "number" => some (known Text.numerals)
  | "nd" | "decimalnumber" | "digit" => some decimalNumber
  | "nl" | "letternumber" => some letterNumber
  | "no" | "othernumber" => some (known Text.Category.otherNumber)
  | "p" | "punctuation" | "punct" => some (known Text.punctuation)
  | "pc" | "connectorpunctuation" => some connectorPunctuation
  | "pd" | "dashpunctuation" => some (known Text.Category.dashPunctuation)
  | "ps" | "openpunctuation" => some (known Text.Category.openPunctuation)
  | "pe" | "closepunctuation" => some (known Text.Category.closePunctuation)
  | "pi" | "initialpunctuation" => some (known Text.Category.initialPunctuation)
  | "pf" | "finalpunctuation" => some (known Text.Category.finalPunctuation)
  | "po" | "otherpunctuation" => some (known Text.Category.otherPunctuation)
  | "s" | "symbol" => some (known Text.symbols)
  | "sm" | "mathsymbol" => some (known Text.Category.mathSymbol)
  | "sc" | "currencysymbol" => some (known Text.Category.currencySymbol)
  | "sk" | "modifiersymbol" => some (known Text.Category.modifierSymbol)
  | "so" | "othersymbol" => some (known Text.Category.otherSymbol)
  | "z" | "separator" => some Text.separators
  | "zs" | "spaceseparator" => some Text.Category.spaceSeparator
  | "zl" | "lineseparator" => some Text.Category.lineSeparator
  | "zp" | "paragraphseparator" => some Text.Category.paragraphSeparator
  | "c" | "other" =>
    some (CodeSet.unions [Text.Category.control, format, Text.Category.privateUse, negate assigned])
  | "cc" | "control" | "cntrl" => some Text.Category.control
  | "cf" | "format" => some format
  | "co" | "privateuse" => some Text.Category.privateUse
  | "cn" | "unassigned" => some (negate assigned)
  | "any" => some scalars
  | "assigned" => some assigned
  | "ascii" => some (.range 0 127)
  | _ => none

end FraudScreen.Regex.Property
