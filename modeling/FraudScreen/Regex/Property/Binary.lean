import FraudScreen.Regex.Property.Edition
import FraudScreen.Text.CaseTable
import FraudScreen.Text.Property.Symbol
import FraudScreen.Text.Property.Writing

/-!
# Properties that a character has or has not

Each by its short and long names without capitals and separators. Most are tables or follow from the general
category with a table of exceptions; whether a character changes with its case follows from the case tables.
-/
namespace FraudScreen.Regex.Property

open Text (CodeSet)
open Text.Property
open Text.CaseTable (Run)

/-! ## Change of case -/

/-- The code points that runs lead away from, if both ends of the way are known. -/
def sources (runs : List Run) : CodeSet :=
  .ofList ((runs.flatMap Run.pairs).filterMap fun (a, b) =>
    if Text.Age.newest.contains a || Text.Age.newest.contains b then none else some a)

/-- Characters with another lowercase form; the dotted capital has one of two characters. -/
def changesWhenLowercased : CodeSet := (sources Text.CaseTable.lower).union (.single 0x130)

/-- Characters with another uppercase form. -/
def changesWhenUppercased (_ : Unit) : CodeSet :=
  (sources Text.CaseTable.upper).union (.ofList (Text.CaseTable.upperSequences.map (·.1)))

/-- Characters with another form at the start of a title. Capital digraphs have one; digraphs that begin with a
capital, the plain Georgian letters, and the Greek letters with a written iota have none. -/
def changesWhenTitlecased (_ : Unit) : CodeSet :=
  ((changesWhenUppercased ()).union (.ofList [0x1C4, 0x1C7, 0x1CA, 0x1F1])).diff
    (CodeSet.unions [.ofList [0x1C5, 0x1C8, 0x1CB, 0x1F2, 0x1FBC, 0x1FCC, 0x1FFC], .range 0x10D0 0x10FA,
      .range 0x10FD 0x10FF, .range 0x1F88 0x1F8F, .range 0x1F98 0x1F9F, .range 0x1FA8 0x1FAF])

/-- Characters that change when case is taken away: those that change in lowercase, and more whose fold is
longer or a common form of several letters. Cherokee letters fold to their capitals. -/
def changesWhenCasefolded (_ : Unit) : CodeSet :=
  (changesWhenLowercased.union
    (CodeSet.unions [.ofList [0xB5, 0xDF, 0x149, 0x17F, 0x345, 0x3C2, 0x3D0, 0x3D1, 0x3D5, 0x3D6, 0x3F0, 0x3F1,
        0x3F5, 0x587, 0x1E9A, 0x1E9B, 0x1FB2, 0x1FB3, 0x1FB4, 0x1FB7, 0x1FC2, 0x1FC3, 0x1FC4, 0x1FC7, 0x1FF2,
        0x1FF3, 0x1FF4, 0x1FF7],
      .range 0x13F8 0x13FD, .range 0x1C80 0x1C88, .range 0x1F80 0x1F87, .range 0x1F90 0x1F97,
      .range 0x1FA0 0x1FA7, .range 0xAB70 0xABBF, .range 0xFB00 0xFB06, .range 0xFB13 0xFB17])).diff
    (.range 0x13A0 0x13F5)

/-! ## Characters of names -/

/-- Code points that belong to the syntax of patterns. -/
def patternCodes : CodeSet := patternSyntax.union patternWhiteSpace

def idStart : CodeSet := (CodeSet.unions [letters, letterNumber, otherIdStart]).diff patternCodes

def idContinue : CodeSet :=
  idStart.union
    ((CodeSet.unions [nonspacingMark, spacingMark, decimalNumber, connectorPunctuation, otherIdContinue]).diff
      patternCodes)

/-! ## All properties -/

/-- Code points without a visible form. -/
def defaultIgnorable : CodeSet :=
  (CodeSet.unions [otherDefaultIgnorable, format, variationSelector]).diff
    (CodeSet.unions [.range 0xFFF9 0xFFFB, .range 0x13430 0x13440, prependedConcatenationMark])

/-- Characters that are not controls and do not extend the character before them. -/
def graphemeBase (_ : Unit) : CodeSet :=
  assigned.diff (CodeSet.unions [Text.Category.control, format, Text.Category.privateUse,
    Text.Category.lineSeparator, Text.Category.paragraphSeparator, graphemeExtend])

def caseIgnorable : CodeSet :=
  CodeSet.unions [nonspacingMark, enclosingMark, format, modifierLetter, known Text.Category.modifierSymbol,
    otherCaseIgnorable]

/-- The characters with a property. -/
def binary? : String → Option CodeSet
  | "ahex" | "asciihexdigit" => some (hexDigit.inter (.range 0 127))
  | "alpha" | "alphabetic" => some alphabetic
  | "bidic" | "bidicontrol" => some bidiControl
  | "bidim" | "bidimirrored" => some bidiMirrored
  | "ci" | "caseignorable" => some caseIgnorable
  | "cased" => some cased
  | "cwcf" | "changeswhencasefolded" => some (changesWhenCasefolded ())
  | "cwcm" | "changeswhencasemapped" =>
    some (CodeSet.unions [changesWhenLowercased, changesWhenUppercased (), changesWhenTitlecased ()])
  | "cwl" | "changeswhenlowercased" => some changesWhenLowercased
  | "cwt" | "changeswhentitlecased" => some (changesWhenTitlecased ())
  | "cwu" | "changeswhenuppercased" => some (changesWhenUppercased ())
  | "dash" => some dash
  | "di" | "defaultignorablecodepoint" => some defaultIgnorable
  | "dep" | "deprecated" => some deprecatedCharacter
  | "dia" | "diacritic" => some diacritic
  | "emoji" => some emoji
  | "ecomp" | "emojicomponent" => some emojiComponent
  | "emod" | "emojimodifier" => some emojiModifier
  | "ebase" | "emojimodifierbase" => some emojiModifierBase
  | "epres" | "emojipresentation" => some emojiPresentation
  | "extpict" | "extendedpictographic" => some extendedPictographic
  | "ext" | "extender" => some extender
  | "grbase" | "graphemebase" => some (graphemeBase ())
  | "grext" | "graphemeextend" => some graphemeExtend
  | "grlink" | "graphemelink" => some graphemeLink
  | "hex" | "hexdigit" => some hexDigit
  | "hyphen" => some hyphen
  | "idsb" | "idsbinaryoperator" => some idsBinaryOperator
  | "idst" | "idstrinaryoperator" => some idsTrinaryOperator
  | "idsu" | "idsunaryoperator" => some idsUnaryOperator
  | "idcompatmathstart" => some compatMathStart
  | "idcompatmathcontinue" => some (compatMathStart.union compatMathMore)
  | "idc" | "idcontinue" => some idContinue
  | "ids" | "idstart" => some idStart
  | "ideo" | "ideographic" => some ideographic
  | "joinc" | "joincontrol" => some joinControl
  | "loe" | "logicalorderexception" => some logicalOrderException
  | "lower" | "lowercase" => some lowercase
  | "math" => some ((known Text.Category.mathSymbol).union otherMath)
  | "mcm" | "modifiercombiningmark" => some modifierCombiningMark
  | "nchar" | "noncharactercodepoint" => some noncharacter
  | "oalpha" | "otheralphabetic" => some (known otherAlphabetic)
  | "odi" | "otherdefaultignorablecodepoint" => some otherDefaultIgnorable
  | "ogrext" | "othergraphemeextend" => some (known otherGraphemeExtend)
  | "oidc" | "otheridcontinue" => some otherIdContinue
  | "oids" | "otheridstart" => some otherIdStart
  | "olower" | "otherlowercase" => some (known otherLowercase)
  | "omath" | "othermath" => some otherMath
  | "oupper" | "otheruppercase" => some (known otherUppercase)
  | "patsyn" | "patternsyntax" => some patternSyntax
  | "patws" | "patternwhitespace" => some patternWhiteSpace
  | "pcm" | "prependedconcatenationmark" => some prependedConcatenationMark
  | "qmark" | "quotationmark" => some quotationMark
  | "radical" => some radical
  | "ri" | "regionalindicator" => some regionalIndicator
  | "sd" | "softdotted" => some softDotted
  | "sterm" | "sentenceterminal" => some sentenceTerminal
  | "term" | "terminalpunctuation" => some terminalPunctuation
  | "uideo" | "unifiedideograph" => some unifiedIdeograph
  | "upper" | "uppercase" => some uppercase
  | "vs" | "variationselector" => some variationSelector
  | "wspace" | "whitespace" | "space" => some Text.blanks
  | "xidc" | "xidcontinue" => some (idContinue.diff unstableIdContinue)
  | "xids" | "xidstart" => some (idStart.diff unstableIdStart)
  | _ => none

end FraudScreen.Regex.Property
