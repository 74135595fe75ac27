import FraudScreen.Text.Letter

/-!
# Quoted text

A text between double quotes, as messages show it: a quote and a backslash get a backslash before
them, tab, line feed, carriage return and NUL have short escapes, and any other character that has no
visible form of its own, or that would merge with the character before it, is written by its code
point in hexadecimal.
-/
namespace FraudScreen.Text

open Category Property

/-- Characters with a visible form of their own; of the separators only the space. -/
def visibleCharacters : CodeSet :=
  CodeSet.unions [letters, marks, numerals, punctuation, symbols, .single 32]

/-- Characters that merge with the character before them. -/
def mergingCharacters : CodeSet :=
  CodeSet.unions [nonspacingMark, enclosingMark, otherGraphemeExtend]

/-- A character that stands for itself between quotes. -/
def isVisible (c : Char) : Bool :=
  if c.toNat < 128 then 32 ≤ c.toNat && c.toNat < 127
  else visibleCharacters.contains c.toNat && !mergingCharacters.contains c.toNat

/-- The digits of `n` in hexadecimal, lowercase and without leading zeros. -/
def hexDigits (n : Nat) : List Char := Nat.toDigits 16 n

/-- One character between quotes. -/
def quoteChar (c : Char) : List Char :=
  match c with
  | '\x00' => ['\\', '0']
  | '\t' => ['\\', 't']
  | '\n' => ['\\', 'n']
  | '\r' => ['\\', 'r']
  | '"' => ['\\', '"']
  | '\\' => ['\\', '\\']
  | c => if isVisible c then [c] else ['\\', 'u', '\x7b'] ++ hexDigits c.toNat ++ ['\x7d']

/-- A text between double quotes. -/
def quote (s : String) : String :=
  String.ofList ('"' :: s.toList.flatMap quoteChar ++ ['"'])

end FraudScreen.Text
