import FraudScreen.Regex.Property.Edition
import FraudScreen.Text.Property.Symbol
import FraudScreen.Text.Property.Writing
import FraudScreen.Text.Script

/-!
# Classes for the division of text

The classes by which text is divided into characters as readers see them, into words and into sentences. Each
is said in terms of categories, scripts and properties, with the exceptions that the rules name.
-/
namespace FraudScreen.Regex.Property

open Text (CodeSet Script)
open Text.Property

/-- The characters of the script with a code. -/
def scriptOf (code : String) : CodeSet :=
  ((Script.all.find? (·.code = code)).map (·.members)).getD .empty

/-- Two-part syllables of the Korean script: every twenty-eighth one. -/
def openSyllables (_ : Unit) : CodeSet := .ofList ((List.range 399).map (0xAC00 + 28 * ·))

/-- Marks and colours that extend the character before them. -/
def extending : CodeSet := graphemeExtend.union emojiModifier

/-- The class of a name for the division into characters. -/
def graphemeClass? : String → Option CodeSet
  | "cr" => some (.single 13)
  | "lf" => some (.single 10)
  | "cn" | "control" =>
    some ((CodeSet.unions [Text.Category.lineSeparator, Text.Category.paragraphSeparator,
      Text.Category.control, format, otherDefaultIgnorable.diff assigned]).diff
      (CodeSet.unions [.ofList [10, 13, 0x200C, 0x200D], prependedConcatenationMark, extending]))
  | "ex" | "extend" => some extending
  | "l" => some ((CodeSet.range 0x1100 0x115F).union (.range 0xA960 0xA97C))
  | "v" =>
    some (CodeSet.unions [.range 0x1160 0x11A7, .range 0xD7B0 0xD7C6, .single 0x16D63, .range 0x16D67 0x16D6A])
  | "t" => some ((CodeSet.range 0x11A8 0x11FF).union (.range 0xD7CB 0xD7FB))
  | "lv" => some (openSyllables ())
  | "lvt" => some ((CodeSet.range 0xAC00 0xD7A3).diff (openSyllables ()))
  | "pp" | "prepend" =>
    some (CodeSet.unions [prependedConcatenationMark,
      .ofList [0xD4E, 0x111C2, 0x111C3, 0x113D1, 0x1193F, 0x11941, 0x11A3A, 0x11D46, 0x11F02],
      .range 0x11A84 0x11A89])
  | "ri" | "regionalindicator" => some regionalIndicator
  | "sm" | "spacingmark" =>
    some ((spacingMark.union (.ofList [0xE33, 0xEB3])).diff
      (CodeSet.unions [extending, .ofList [0x102B, 0x102C, 0x1038, 0x1083, 0x108F, 0x1A61, 0x1A63, 0x1A64, 0xAA7B,
          0xAA7D, 0x11720, 0x11721],
        .range 0x1062 0x1064, .range 0x1067 0x106D, .range 0x1087 0x108C, .range 0x109A 0x109C]))
  | "zwj" => some (.single 0x200D)
  | _ => none

/-- Digits with what stands for digits in the division into words. -/
def wordNumeric : CodeSet :=
  CodeSet.unions [decimalNumber, .ofList [0x66B, 0x6DD, 0x890, 0x891, 0x8E2, 0x19DA, 0x110BD, 0x110CD],
    .range 0x600 0x605]

/-- Marks and colours, whatever room they take. -/
def wordExtend : CodeSet := extending.union spacingMark

def wordKatakana : CodeSet :=
  (scriptOf "kana").union (.ofList [0x3031, 0x3032, 0x3033, 0x3034, 0x3035, 0x309B, 0x309C, 0x30A0, 0x30FC, 0xFF70])

def hebrewLetter : CodeSet := (scriptOf "hebr").inter otherLetter

/-- Letters of the scripts that divide words without spaces. -/
def withoutSpaces (_ : Unit) : CodeSet :=
  CodeSet.unions ((["thai", "laoo", "khmr", "mymr", "tale", "talu", "lana", "tavt", "ahom", "hira"]).map scriptOf)

/-- The class of a name for the division into words. -/
def wordClass? : String → Option CodeSet
  | "cr" => some (.single 13)
  | "lf" => some (.single 10)
  | "nl" | "newline" => some (.ofList [0xB, 0xC, 0x85, 0x2028, 0x2029])
  | "dq" | "doublequote" => some (.single 0x22)
  | "sq" | "singlequote" => some (.single 0x27)
  | "ex" | "extendnumlet" => some (connectorPunctuation.union (.single 0x202F))
  | "extend" => some wordExtend
  | "fo" | "format" =>
    some (format.diff (CodeSet.unions [.ofList [0x70F, 0x200B, 0x200C, 0x200D], wordNumeric, wordExtend]))
  | "hl" | "hebrewletter" => some hebrewLetter
  | "ka" | "katakana" => some wordKatakana
  | "le" | "aletter" =>
    some (((CodeSet.unions [alphabetic, .ofList [0xB8, 0x2C2, 0x2C3, 0x2C4, 0x2C5, 0x2DE, 0x2DF, 0x2ED, 0x55A,
        0x55B, 0x55C, 0x55E, 0x58A, 0x5F3, 0x70F, 0xA720, 0xA721, 0xA789, 0xA78A, 0xAB5B],
      .range 0x2D2 0x2D7, .range 0x2E5 0x2EB, .range 0x2EF 0x2FF, .range 0xA708 0xA716]).diff
      (CodeSet.unions [ideographic, wordKatakana, withoutSpaces (), wordExtend, hebrewLetter, wordNumeric])))
  | "mb" | "midnumlet" => some (.ofList [0x2E, 0x2018, 0x2019, 0x2024, 0xFE52, 0xFF07, 0xFF0E])
  | "ml" | "midletter" => some (.ofList [0x3A, 0xB7, 0x387, 0x55F, 0x5F4, 0x2027, 0xFE13, 0xFE55, 0xFF1A])
  | "mn" | "midnum" =>
    some (.ofList [0x2C, 0x3B, 0x37E, 0x589, 0x60C, 0x60D, 0x66C, 0x7F8, 0x2044, 0xFE10, 0xFE14, 0xFE50, 0xFE54,
      0xFF0C, 0xFF1B])
  | "nu" | "numeric" => some wordNumeric
  | "ri" | "regionalindicator" => some regionalIndicator
  | "wsegspace" => some (Text.Category.spaceSeparator.diff (.ofList [0xA0, 0x2007, 0x202F]))
  | "zwj" => some (.single 0x200D)
  | _ => none

/-- Full stops, which do not always end a sentence. -/
def fullStops : CodeSet := .ofList [0x2E, 0x2024, 0xFE52, 0xFF0E]

/-- Marks and the two joiners. -/
def sentenceExtend : CodeSet := CodeSet.unions [graphemeExtend, .single 0x200D, spacingMark]

/-- Lowercase characters but for the plain Georgian letters. -/
def sentenceLower : CodeSet :=
  lowercase.diff (CodeSet.unions [sentenceExtend, .range 0x10D0 0x10FA, .range 0x10FD 0x10FF])

/-- Uppercase and titlecase characters but for the Georgian capitals. -/
def sentenceUpper : CodeSet := (titlecaseLetter.union uppercase).diff (.range 0x1C90 0x1CBF)

/-- The class of a name for the division into sentences. -/
def sentenceClass? : String → Option CodeSet
  | "cr" => some (.single 13)
  | "lf" => some (.single 10)
  | "se" | "sep" => some (.ofList [0x85, 0x2028, 0x2029])
  | "sp" => some (Text.blanks.diff (.ofList [10, 13, 0x85, 0x2028, 0x2029]))
  | "ex" | "extend" => some sentenceExtend
  | "fo" | "format" => some (format.diff (CodeSet.unions [.ofList [0x200C, 0x200D], wordNumeric, sentenceExtend]))
  | "lo" | "lower" => some sentenceLower
  | "up" | "upper" => some sentenceUpper
  | "le" | "oletter" =>
    some ((alphabetic.union (.single 0x5F3)).diff
      (CodeSet.unions [sentenceLower, sentenceUpper, sentenceExtend]))
  | "nu" | "numeric" => some (wordNumeric.union (.single 0x66C))
  | "at" | "aterm" => some fullStops
  | "st" | "sterm" => some (sentenceTerminal.diff fullStops)
  | "sc" | "scontinue" =>
    some (.ofList [0x2C, 0x2D, 0x3A, 0x3B, 0x37E, 0x55D, 0x60C, 0x60D, 0x7F8, 0x1802, 0x1808, 0x2013, 0x2014,
      0x3001, 0xFE10, 0xFE11, 0xFE13, 0xFE14, 0xFE31, 0xFE32, 0xFE50, 0xFE51, 0xFE54, 0xFE55, 0xFE58, 0xFE63,
      0xFF0C, 0xFF0D, 0xFF1A, 0xFF1B, 0xFF64])
  | "cl" | "close" =>
    some ((CodeSet.unions [known Text.Category.openPunctuation, known Text.Category.closePunctuation,
      Text.Category.initialPunctuation, Text.Category.finalPunctuation, .ofList [0x22, 0x27, 0x2E0B],
      .range 0x275B 0x2760, .range 0x2E00 0x2E01, .range 0x2E06 0x2E08, .range 0x1F676 0x1F678]).diff
      (sentenceTerminal.union fullStops))
  | _ => none

end FraudScreen.Regex.Property
