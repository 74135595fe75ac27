import FraudScreen.Decimal.Reader
import FraudScreen.Expr.Error
import FraudScreen.Text.Blank

/-!
# Tokens of the evaluator

A text is read in two steps. Fragments are single operator characters, blanks, text literals and the
words between them; comments vanish, so the words on both sides of one join. Tokens then combine
operator characters and decide what each word is.
-/
namespace FraudScreen.Expr

/-! ## Fragments -/

/-- A piece of source text. -/
inductive Fragment where
  | text (s : String)
  | word (cs : List Char)
  | blank
  | mark (c : Char)
deriving DecidableEq, Repr

/-- Characters that are fragments by themselves. -/
def isMark (c : Char) : Bool := "+-*/%^(),;=!><&|".toList.contains c

/-- A fragment as an error message shows it. -/
def Fragment.show : Fragment → String
  | text s => Text.quote s
  | word cs => String.ofList cs
  | blank => " "
  | mark c => c.toString

/-- The content of a text literal after its opening quote, and what follows the closing quote. -/
def readText : List Char → Except SyntaxError (List Char × List Char)
  | [] => .error .unclosedText
  | '"' :: rest => .ok ([], rest)
  | '\\' :: '"' :: rest => do let (s, more) ← readText rest; return ('"' :: s, more)
  | '\\' :: '\\' :: rest => do let (s, more) ← readText rest; return ('\\' :: s, more)
  | '\\' :: c :: _ => .error (.illegalEscape (some c))
  | ['\\'] => .error (.illegalEscape none)
  | c :: rest => do let (s, more) ← readText rest; return (c :: s, more)

/-- What follows a comment that runs to the end of the line. -/
def skipLine (cs : List Char) : List Char := (cs.dropWhile (· ≠ '\n')).drop 1

/-- What follows a comment that runs to `*/`. -/
def skipBlock : List Char → Option (List Char)
  | [] => none
  | '*' :: '/' :: rest => some rest
  | _ :: rest => skipBlock rest

theorem length_readText_le {cs s rest : List Char} (h : readText cs = .ok (s, rest)) :
    rest.length ≤ cs.length := by
  fun_induction readText cs generalizing s rest with
  | case1 | case5 | case6 => cases h
  | case2 => cases h; simp
  | case3 r ih | case4 r ih | case7 c r _ _ _ _ _ ih =>
    cases hr : readText r with
    | error e => simp [hr, bind, Except.bind] at h
    | ok p =>
      obtain ⟨content, more⟩ := p
      simp only [hr, bind, Except.bind, pure, Except.pure, Except.ok.injEq, Prod.mk.injEq] at h
      have := ih hr
      simp only [List.length_cons, ← h.2]
      omega

theorem length_skipLine_le (cs : List Char) : (skipLine cs).length ≤ cs.length := by
  have := (List.dropWhile_sublist (· ≠ '\n') (l := cs)).length_le
  simp only [skipLine, List.length_drop]
  omega

theorem length_skipBlock_le {cs rest : List Char} (h : skipBlock cs = some rest) :
    rest.length ≤ cs.length := by
  fun_induction skipBlock cs with
  | case1 => cases h
  | case2 => cases h; simp; omega
  | case3 c r _ ih =>
    have := ih h
    simp only [List.length_cons]
    omega

/-- Appends a character to the word under way, or begins a new one. Fragments are in reverse. -/
def extendWord (c : Char) : List Fragment → List Fragment
  | .word cs :: done => .word (cs ++ [c]) :: done
  | done => .word [c] :: done

/-- Reads the fragments of a text after those already `done`, which are in reverse. -/
def readFragments (done : List Fragment) : List Char → Except SyntaxError (List Fragment)
  | [] => .ok done.reverse
  | c :: rest =>
    if c = '"' then
      match h : readText rest with
      | .error e => .error e
      | .ok (s, more) =>
        have := length_readText_le h
        readFragments (.text (String.ofList s) :: done) more
    else if c = '/' ∧ rest.head? = some '/' then
      have := length_skipLine_le rest.tail
      readFragments done (skipLine rest.tail)
    else if c = '/' ∧ rest.head? = some '*' then
      match h : skipBlock rest.tail with
      | none => .error .unclosedComment
      | some more =>
        have := length_skipBlock_le h
        readFragments done more
    else if isMark c then readFragments (.mark c :: done) rest
    else if Text.isBlank c then readFragments (.blank :: done) rest
    else readFragments (extendWord c done) rest
termination_by cs => cs.length
decreasing_by
  all_goals simp_all only [List.length_cons, List.length_tail]
  all_goals omega

/-- The fragments of a text. -/
def fragments (cs : List Char) : Except SyntaxError (List Fragment) := readFragments [] cs

/-! ## Tokens -/

/-- Operators and punctuation. -/
inductive Sign where
  | plus | minus | star | slash | percent | hat
  | eq | neq | gt | lt | geq | leq | and | or | not
  | assign | plusAssign | minusAssign | starAssign | slashAssign | percentAssign | hatAssign
  | andAssign | orAssign
  | comma | semicolon | opening | closing
deriving DecidableEq, Repr

/-- A token: a sign, a name, or a constant. -/
inductive Token where
  | sign (s : Sign)
  | name (s : String)
  | const (v : Value)

/-- The sign that an operator character begins, the characters it may take with it, in the order in
which they are tried, and the sign it is alone. -/
def combineMark (c : Char) (rest : List Fragment) : Except SyntaxError (Sign × List Fragment) :=
  let withEquals (joined alone : Sign) : Except SyntaxError (Sign × List Fragment) :=
    match rest with
    | .mark '=' :: more => .ok (joined, more)
    | _ => .ok (alone, rest)
  let doubled (joined assigned : Sign) : Except SyntaxError (Sign × List Fragment) :=
    match rest with
    | .mark d :: more =>
      if d = c then
        match more with
        | .mark '=' :: final => .ok (assigned, final)
        | _ => .ok (joined, more)
      else .error (.halfOperator c (some (Fragment.mark d).show))
    | next :: _ => .error (.halfOperator c (some next.show))
    | [] => .error (.halfOperator c none)
  match c with
  | '+' => withEquals .plusAssign .plus
  | '-' => withEquals .minusAssign .minus
  | '*' => withEquals .starAssign .star
  | '/' => withEquals .slashAssign .slash
  | '%' => withEquals .percentAssign .percent
  | '^' => withEquals .hatAssign .hat
  | '=' => withEquals .eq .assign
  | '!' => withEquals .neq .not
  | '>' => withEquals .geq .gt
  | '<' => withEquals .leq .lt
  | '&' => doubled .and .andAssign
  | '|' => doubled .or .orAssign
  | ',' => .ok (.comma, rest)
  | '(' => .ok (.opening, rest)
  | ')' => .ok (.closing, rest)
  | _ => .ok (.semicolon, rest)

/-- A whole number in decimal, or in hexadecimal after `0x`, that fits 64 bits. -/
def readInt? (cs : List Char) : Option Int64 :=
  let magnitude : Option Nat :=
    match cs with
    | '0' :: 'x' :: digits => if digits.isEmpty then none else Decimal.hexValueOf? digits
    | digits =>
      if digits.isEmpty || !digits.all Char.isDigit then none else some (Decimal.digitsValue digits)
  magnitude.bind fun n => if n ≤ Int64.maxValue.toInt then some (Int64.ofNat n) else none

/-- The constant that a word is, if it is one. -/
def readConstant? (cs : List Char) : Option Value :=
  match readInt? cs with
  | some n => some (.int n)
  | none =>
    match Decimal.readMagnitude? cs with
    | some x => some (.float x)
    | none =>
      if cs = "true".toList then some (.bool true)
      else if cs = "false".toList then some (.bool false)
      else none

/-- A number whose exponent carries a sign spans three fragments: the word before the sign, the sign
and the word after it. -/
def readSplitNumber? (cs : List Char) (rest : List Fragment) : Option (Float × List Fragment) :=
  match rest with
  | .mark c :: .word ds :: more =>
    if c = '+' ∨ c = '-' then (Decimal.readMagnitude? (cs ++ c :: ds)).map (·, more) else none
  | _ => none

/-- What a word is. -/
def classifyWord (cs : List Char) (rest : List Fragment) : Token × List Fragment :=
  match readConstant? cs with
  | some v => (.const v, rest)
  | none =>
    match readSplitNumber? cs rest with
    | some (x, more) => (.const (.float x), more)
    | none => (.name (String.ofList cs), rest)

theorem length_combineMark_le {c : Char} {rest more : List Fragment} {s : Sign}
    (h : combineMark c rest = .ok (s, more)) : more.length ≤ rest.length := by
  unfold combineMark at h
  simp only at h
  repeat' split at h
  all_goals simp_all
  all_goals omega

theorem length_classifyWord_le (cs : List Char) (rest : List Fragment) :
    (classifyWord cs rest).2.length ≤ rest.length := by
  unfold classifyWord
  split
  · simp
  · split
    · rename_i x more h
      unfold readSplitNumber? at h
      split at h
      · split at h
        · simp only [Option.map_eq_some_iff, Prod.mk.injEq] at h
          obtain ⟨_, _, _, rfl⟩ := h
          simp
          omega
        · cases h
      · cases h
    · simp

/-- Combines fragments into tokens. -/
def tokensOf : List Fragment → Except SyntaxError (List Token)
  | [] => .ok []
  | .blank :: rest => tokensOf rest
  | .text s :: rest => do return .const (.text s) :: (← tokensOf rest)
  | .word cs :: rest =>
    have := length_classifyWord_le cs rest
    do return (classifyWord cs rest).1 :: (← tokensOf (classifyWord cs rest).2)
  | .mark c :: rest =>
    match h : combineMark c rest with
    | .error e => .error e
    | .ok (s, more) =>
      have := length_combineMark_le h
      do return .sign s :: (← tokensOf more)
termination_by fs => fs.length
decreasing_by
  all_goals simp_all only [List.length_cons]
  all_goals omega

/-- The tokens of a text. -/
def tokenize (cs : List Char) : Except SyntaxError (List Token) := do tokensOf (← fragments cs)

end FraudScreen.Expr
