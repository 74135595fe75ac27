import FraudScreen.Expr.Literal
import FraudScreen.Text.Letter

/-!
# The rule dialect

Rules are written in a relaxed dialect: `and`, `or` and `not`, a single `=` for equality, `<>` for
inequality, text in either kind of quotes, whole numbers anywhere. `normalize` rewrites a rule into
the syntax of the evaluator in one pass, leaving text literals alone. Whole numbers become decimals, so
that arithmetic is in floating point.
-/
namespace FraudScreen.Expr

open Text

/-- A character that a name goes on with. -/
def isNamePart (c : Char) : Bool := isAlphanumeric c || c == '_' || c == ':'

/-- A character that the suffix of a number goes on with. -/
def isNumberSuffix (c : Char) : Bool := isAlphanumeric c || c == '_'

/-- The body of a single-quoted literal in double quotes, closing quote included, and the rest. -/
def requote : List Char → List Char × List Char
  | [] => (['"'], [])
  | '\'' :: rest => (['"'], rest)
  | '\\' :: c :: rest => ('\\' :: c :: (requote rest).1, (requote rest).2)
  | '"' :: rest => ('\\' :: '"' :: (requote rest).1, (requote rest).2)
  | c :: rest => (c :: (requote rest).1, (requote rest).2)

theorem length_requote_le (cs : List Char) : (requote cs).2.length ≤ cs.length := by
  fun_induction requote cs <;> simp_all <;> omega

/-- The exponent mark of a number with its sign, if one stands at the front. -/
def spanExponentMark : List Char → List Char × List Char
  | [] => ([], [])
  | e :: rest =>
    if e = 'e' ∨ e = 'E' then
      match rest with
      | [] => ([e], [])
      | s :: more => if s = '+' ∨ s = '-' then ([e, s], more) else ([e], s :: more)
    else ([], e :: rest)

theorem spanExponentMark_append (cs : List Char) :
    (spanExponentMark cs).1 ++ (spanExponentMark cs).2 = cs := by
  unfold spanExponentMark
  repeat' split
  all_goals simp

/-- A number at the front of a text: digits and points, an exponent mark, and any alphanumeric suffix.
A run of digits alone gets a decimal place. -/
def spanNumber (cs : List Char) : List Char × List Char :=
  let body := cs.takeWhile fun c => c.isDigit || c == '.'
  let mark := spanExponentMark (cs.dropWhile fun c => c.isDigit || c == '.')
  let suffix := mark.2.takeWhile isNumberSuffix
  let whole := mark.1.isEmpty && suffix.isEmpty && !body.contains '.'
  (body ++ mark.1 ++ suffix ++ (if whole then ['.', '0'] else []), mark.2.dropWhile isNumberSuffix)

/-- The evaluator's spelling of a word. -/
def respell (word : List Char) : List Char :=
  if word = ['a', 'n', 'd'] then ['&', '&']
  else if word = ['o', 'r'] then ['|', '|']
  else if word = ['n', 'o', 't'] then ['!']
  else word

/-- An equals sign completes a comparison that is already there, and otherwise stands for equality. -/
def spellEquals (last : Option Char) : List Char :=
  match last with
  | some c => if c = '<' ∨ c = '>' ∨ c = '!' ∨ c = '=' then ['='] else ['=', '=']
  | none => ['=', '=']

/-- One step at the front of a text: what is written and what is left. `last` is the character written
before. -/
def normalizeStep (last : Option Char) (c : Char) (rest : List Char) : List Char × List Char :=
  if c = '"' then ('"' :: (spanText rest).1, (spanText rest).2)
  else if c = '\'' then ('"' :: (requote rest).1, (requote rest).2)
  else if c = '=' then
    match rest with
    | '=' :: more => (['=', '='], more)
    | _ => (spellEquals last, rest)
  else if c = '<' ∧ rest.head? = some '>' then (['!', '='], rest.tail)
  else if c.isDigit ∨ (c = '.' ∧ rest.head?.any Char.isDigit) then spanNumber (c :: rest)
  else if isAlphabetic c || c == '_' then
    (respell (c :: rest.takeWhile isNamePart), rest.dropWhile isNamePart)
  else ([c], rest)

theorem length_dropWhile_le {α : Type} (p : α → Bool) (xs : List α) :
    (xs.dropWhile p).length ≤ xs.length :=
  (List.dropWhile_sublist p).length_le

/-- A number is not empty, so what is left after it is shorter. -/
theorem length_spanNumber_lt (c : Char) (rest : List Char) (h : c.isDigit ∨ c = '.') :
    (spanNumber (c :: rest)).2.length < (c :: rest).length := by
  have hc : (c.isDigit || c == '.') = true := by rcases h with h | h <;> simp [h]
  have h1 := length_dropWhile_le isNumberSuffix
    (spanExponentMark ((c :: rest).dropWhile fun c => c.isDigit || c == '.')).2
  have h2 := congrArg List.length
    (spanExponentMark_append ((c :: rest).dropWhile fun c => c.isDigit || c == '.'))
  have h3 : ((c :: rest).dropWhile fun c => c.isDigit || c == '.').length ≤ rest.length := by
    rw [List.dropWhile_cons_of_pos (by simpa using hc)]
    exact length_dropWhile_le _ _
  simp only [List.length_append] at h2
  simp only [spanNumber, List.length_cons]
  omega

/-- Each step uses up at least one character. -/
theorem length_normalizeStep_le (last : Option Char) (c : Char) (rest : List Char) :
    (normalizeStep last c rest).2.length ≤ rest.length := by
  unfold normalizeStep
  split
  · exact length_spanText_le rest
  split
  · exact length_requote_le rest
  split
  · split <;> simp
  split
  · simp
  split
  · rename_i h
    have := length_spanNumber_lt c rest (h.imp id And.left)
    simpa [Nat.lt_succ_iff] using this
  split
  · exact length_dropWhile_le _ _
  · simp

/-- Rewrites the rest of a rule, given the character written before it. -/
def normalizeAfter (last : Option Char) : List Char → List Char
  | [] => []
  | c :: rest =>
    let step := normalizeStep last c rest
    step.1 ++ normalizeAfter (step.1.getLast?.or last) step.2
termination_by cs => cs.length
decreasing_by
  have := length_normalizeStep_le last c rest
  simp only [List.length_cons]
  omega

/-- Rewrites a rule into the syntax of the evaluator. -/
def normalize (rule : String) : String := String.ofList (normalizeAfter none rule.toList)

end FraudScreen.Expr
