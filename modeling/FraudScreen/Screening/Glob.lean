/-!
# Globs

Texts with wildcards: a star stands for any run of characters and a question mark for exactly one.
`Covers` says which texts a glob stands for, and `source` is the regular expression for it.
-/
namespace FraudScreen.Screening.Glob

/-- The glob stands for the whole text. -/
inductive Covers : List Char → List Char → Prop where
  | nil : Covers [] []
  | star {g t : List Char} (run : List Char) : Covers g t → Covers ('*' :: g) (run ++ t)
  | one {g t : List Char} (c : Char) : Covers g t → Covers ('?' :: g) (c :: t)
  | char {g t : List Char} {c : Char} : c ≠ '*' → c ≠ '?' → Covers g t → Covers (c :: g) (c :: t)

/-- Characters that get a backslash in the expression of a glob. -/
def escaped : List Char := ['.', '^', '$', '+', '(', ')', '[', ']', '\x7b', '\x7d', '|', '\\']

/-- The part of the expression for one character of the glob. -/
def piece (c : Char) : List Char :=
  if c = '*' then ['.', '*']
  else if c = '?' then ['.']
  else if escaped.contains c then ['\\', c]
  else [c]

/-- The regular expression of a glob, which has to match from the start of a text to its end. -/
def source (g : List Char) : List Char := '^' :: g.flatMap piece ++ ['$']

end FraudScreen.Screening.Glob
