import Mathlib.Data.List.TakeWhile
import FraudScreen.Expr.Dialect
import FraudScreen.Text.Blank

/-!
# Texts that stand alone

A text stands alone if its literals end, its parentheses are paired and it holds no comment. Literals of
either kind are skipped on the way. What is written in the dialect and stands alone does so in the
evaluator's syntax too (`read_normalizeAfter`), and a blank or a parenthesis after it does not change how it is
rewritten (`normalizeAfter_append`).
-/
namespace FraudScreen.Expr

open Text

/-! ## Reading character by character -/

/-- Rules are written in the dialect, which has two kinds of literals, and rewritten into the syntax of the
evaluator, which has one. -/
inductive Language where
  | dialect
  | evaluator

def Language.isQuote : Language → Char → Bool
  | .dialect, c => c == '"' || c == '\''
  | .evaluator, c => c == '"'

/-- Where a reader of a rule is: outside of literals, within some number of parentheses and perhaps right
after a slash, or in a literal that a quote began, perhaps right after a backslash. -/
inductive Reader where
  | outside (depth : Nat) (slash : Bool)
  | inside (depth : Nat) (quote : Char)
  | escaped (depth : Nat) (quote : Char)
deriving DecidableEq, Repr

namespace Reader

/-- Reads a character. The start of a comment and a closing parenthesis without a partner are not read. -/
def step (l : Language) : Reader → Char → Option Reader
  | .escaped d q, _ => some (.inside d q)
  | .inside d q, c =>
    some (if c = '\\' then .escaped d q else if c = q then .outside d false else .inside d q)
  | .outside d slash, c =>
    if slash ∧ (c = '/' ∨ c = '*') then none
    else if l.isQuote c then some (.inside d c)
    else if c = '(' then some (.outside (d + 1) false)
    else if c = ')' then if d = 0 then none else some (.outside (d - 1) false)
    else some (.outside d (c = '/'))

def read (l : Language) (r : Reader) (cs : List Char) : Option Reader := cs.foldlM (step l) r

variable (l : Language) (r : Reader)

@[simp] theorem read_nil : read l r [] = some r := rfl

theorem read_cons (c : Char) (cs : List Char) : read l r (c :: cs) = (step l r c).bind (read l · cs) := rfl

theorem read_append (as bs : List Char) : read l r (as ++ bs) = (read l r as).bind (read l · bs) :=
  List.foldlM_append

end Reader

/-- The text is read from outside of everything to outside of everything. -/
def standsAlone (l : Language) (cs : List Char) : Bool :=
  match Reader.read l (.outside 0 false) cs with
  | some (.outside 0 _) => true
  | _ => false

open Reader

theorem standsAlone_iff {l : Language} {cs : List Char} :
    standsAlone l cs ↔ ∃ slash, read l (outside 0 false) cs = some (outside 0 slash) := by
  unfold standsAlone
  split
  · rename_i b h
    exact ⟨fun _ => ⟨b, h⟩, fun _ => rfl⟩
  · rename_i h
    exact ⟨fun hf => absurd hf (by simp), fun ⟨b, hb⟩ => absurd hb (h b)⟩

/-- The characters that begin a literal, are parentheses or have a part in a comment. -/
def remarkable : List Char := ['"', '\'', '(', ')', '/', '*']

def isOrdinary (c : Char) : Bool := !remarkable.contains c

theorem isOrdinary_of {p : Char → Bool} (h : remarkable.any p = false) {c : Char} (hc : p c) :
    isOrdinary c := by
  have hn : c ∉ remarkable := fun hm => List.any_eq_false.1 h c hm hc
  simpa [isOrdinary] using hn

theorem step_ordinary (l : Language) (d : Nat) (b : Bool) {c : Char} (h : isOrdinary c) :
    step l (outside d b) c = some (outside d false) := by
  cases l <;> simp_all [step, isOrdinary, remarkable, Language.isQuote]

theorem read_ordinary (l : Language) (d : Nat) : ∀ {cs : List Char} (b : Bool), cs ≠ [] →
    (∀ c ∈ cs, isOrdinary c) → read l (outside d b) cs = some (outside d false)
  | [c], b, _, h => by
    rw [read_cons, step_ordinary l d b (h c (List.mem_cons_self ..))]
    rfl
  | c :: c' :: cs, b, _, h => by
    rw [read_cons, step_ordinary l d b (h c (List.mem_cons_self ..)), Option.bind_some]
    exact read_ordinary l d false (List.cons_ne_nil c' cs) fun a h' => h a (List.mem_cons_of_mem _ h')

/-! ## Literals -/

theorem step_inside (l : Language) (d : Nat) {q c : Char} (hb : c ≠ '\\') (hq : c ≠ q) :
    step l (inside d q) c = some (inside d q) := by simp [step, hb, hq]

/-- The text, which follows an opening quote, ends with its closing quote. -/
structure Closes (body : List Char) : Prop where
  span : ∀ rest, spanText (body ++ rest) = (body, rest)
  read : ∀ l d, read l (inside d '"') body = some (outside d false)

theorem Closes.quote : Closes ['"'] := ⟨fun _ => rfl, fun _ _ => rfl⟩

theorem Closes.escape {body : List Char} (h : Closes body) (c : Char) : Closes ('\\' :: c :: body) :=
  ⟨fun rest => by simp [spanText, h.span rest], fun l d => h.read l d⟩

theorem Closes.cons {body : List Char} (h : Closes body) {c : Char} (hq : c ≠ '"') (hb : c ≠ '\\') :
    Closes (c :: body) where
  span rest := by simp [spanText, hb, h.span rest]
  read l d := by rw [read_cons, step_inside l d hb hq, Option.bind_some, h.read]

/-- A double-quoted literal that a reader gets out of. -/
theorem read_spanText {l : Language} {d d' : Nat} {b : Bool} {cs : List Char}
    (h : read l (inside d '"') cs = some (outside d' b)) :
    Closes (spanText cs).1 ∧ read l (outside d false) (spanText cs).2 = some (outside d' b) := by
  fun_induction spanText cs with
  | case1 => simp at h
  | case2 c rest ih => exact ⟨(ih h).1.escape c, (ih h).2⟩
  | case3 rest => exact ⟨.quote, h⟩
  | case4 c rest hb hq ih =>
    by_cases hc : c = '\\'
    · -- nothing follows the backslash
      cases rest with
      | nil => simp [hc, read_cons, step] at h
      | cons a rest => exact absurd rfl (hb a rest hc)
    · rw [read_cons, step_inside l d hc hq, Option.bind_some] at h
      exact ⟨(ih h).1.cons hq hc, (ih h).2⟩

theorem spanText_closing {cs : List Char} (h : Closes (spanText cs).1) (more : List Char) :
    spanText (cs ++ more) = ((spanText cs).1, (spanText cs).2 ++ more) := by
  conv => lhs; rw [← spanText_append cs, List.append_assoc, h.span]

/-- A single-quoted literal that a reader gets out of. -/
theorem read_requote {l : Language} {d d' : Nat} {b : Bool} {cs : List Char}
    (h : read l (inside d '\'') cs = some (outside d' b)) :
    Closes (requote cs).1 ∧ read l (outside d false) (requote cs).2 = some (outside d' b) ∧
      ∀ rest, requote (cs ++ rest) = ((requote cs).1, (requote cs).2 ++ rest) := by
  fun_induction requote cs with
  | case1 => simp at h
  | case2 rest => exact ⟨.quote, h, fun _ => rfl⟩
  | case3 c rest ih =>
    obtain ⟨h1, h2, h3⟩ := ih h
    exact ⟨h1.escape c, h2, fun more => by simp [requote, h3 more]⟩
  | case4 rest ih =>
    obtain ⟨h1, h2, h3⟩ := ih h
    exact ⟨h1.escape '"', h2, fun more => by simp [requote, h3 more]⟩
  | case5 c rest hs hb hq ih =>
    by_cases hc : c = '\\'
    · cases rest with
      | nil => simp [hc, read_cons, step] at h
      | cons a rest => exact absurd rfl (hb a rest hc)
    · rw [read_cons, step_inside l d hc hs, Option.bind_some] at h
      obtain ⟨h1, h2, h3⟩ := ih h
      exact ⟨h1.cons hq hc, h2, fun more => by simp [requote, hc, h3 more]⟩

/-! ## One step of the rewriting -/

theorem isOrdinary_of_isNamePart {c : Char} (h : isNamePart c) : isOrdinary c := isOrdinary_of (by decide) h

theorem isOrdinary_of_isNumberSuffix {c : Char} (h : isNumberSuffix c) : isOrdinary c :=
  isOrdinary_of (by decide) h

/-- A character that a number is made of up to its exponent. -/
def isDecimalPart (c : Char) : Bool := c.isDigit || c == '.'

theorem isOrdinary_of_isDecimalPart {c : Char} (h : isDecimalPart c) : isOrdinary c :=
  isOrdinary_of (by decide) h

theorem isOrdinary_of_mem_spanExponentMark {cs : List Char} {c : Char} (h : c ∈ (spanExponentMark cs).1) :
    isOrdinary c := by
  have hm : c ∈ ['e', 'E', '+', '-'] := by
    unfold spanExponentMark at h
    split at h
    · cases h
    split at h
    · rename_i e _ he
      have he : e ∈ ['e', 'E', '+', '-'] := by rcases he with rfl | rfl <;> decide
      split at h
      · exact List.mem_singleton.1 h ▸ he
      split at h
      · rename_i s _ hs
        have hs : s ∈ ['e', 'E', '+', '-'] := by rcases hs with rfl | rfl <;> decide
        rcases List.mem_cons.1 h with rfl | h
        · exact he
        · exact List.mem_singleton.1 h ▸ hs
      · exact List.mem_singleton.1 h ▸ he
    · cases h
  exact isOrdinary_of (p := fun c => ['e', 'E', '+', '-'].contains c) (by decide) (by simpa using hm)

/-- What is left after a number is left of the text, and both the number in the text and the number that is
written are of ordinary characters. -/
theorem spanNumber_spec (cs : List Char) : ∃ number zero,
    cs = number ++ (spanNumber cs).2 ∧ (spanNumber cs).1 = number ++ zero ∧
      (∀ c ∈ number, isOrdinary c) ∧ (∀ c ∈ zero, isOrdinary c) := by
  have hm := spanExponentMark_append (cs.dropWhile isDecimalPart)
  refine ⟨cs.takeWhile isDecimalPart ++ (spanExponentMark (cs.dropWhile isDecimalPart)).1 ++
    (spanExponentMark (cs.dropWhile isDecimalPart)).2.takeWhile isNumberSuffix, _, ?_, rfl, ?_, ?_⟩
  · have hs : (spanNumber cs).2 =
        (spanExponentMark (cs.dropWhile isDecimalPart)).2.dropWhile isNumberSuffix := rfl
    rw [hs, List.append_assoc, List.takeWhile_append_dropWhile, List.append_assoc, hm,
      List.takeWhile_append_dropWhile]
  · intro c hc
    simp only [List.mem_append] at hc
    rcases hc with (hc | hc) | hc
    · exact isOrdinary_of_isDecimalPart (List.mem_takeWhile_imp hc)
    · exact isOrdinary_of_mem_spanExponentMark hc
    · exact isOrdinary_of_isNumberSuffix (List.mem_takeWhile_imp hc)
  · intro c hc
    split at hc
    · simp only [List.mem_cons, List.not_mem_nil, or_false] at hc
      rcases hc with rfl | rfl <;> rfl
    · cases hc

theorem isOrdinary_of_mem_respell {word : List Char} (h : ∀ c ∈ word, isOrdinary c) :
    ∀ c ∈ respell word, isOrdinary c := by
  unfold respell
  split
  · simp [isOrdinary, remarkable]
  split
  · simp [isOrdinary, remarkable]
  split
  · simp [isOrdinary, remarkable]
  · exact h

theorem respell_ne_nil {word : List Char} (h : word ≠ []) : respell word ≠ [] := by
  unfold respell
  repeat' split
  all_goals simp_all

theorem spellEquals_cases (last : Option Char) : spellEquals last = ['='] ∨ spellEquals last = ['=', '='] := by
  unfold spellEquals
  repeat' split
  all_goals simp

/-- Apart from literals, a step rewrites some ordinary characters into others, or copies a character. -/
theorem normalizeStep_cases (last : Option Char) {c : Char} (rest : List Char) (hd : c ≠ '"') (hs : c ≠ '\'') :
    normalizeStep last c rest = ([c], rest) ∨
      ∃ read, c :: rest = read ++ (normalizeStep last c rest).2 ∧ read ≠ [] ∧ (∀ a ∈ read, isOrdinary a) ∧
        (normalizeStep last c rest).1 ≠ [] ∧ ∀ a ∈ (normalizeStep last c rest).1, isOrdinary a := by
  unfold normalizeStep
  rw [if_neg hd, if_neg hs]
  split
  · rename_i hc
    subst hc
    right
    split
    · have hq : ∀ a ∈ ['=', '='], isOrdinary a := List.all_eq_true.1 (by decide)
      exact ⟨['=', '='], rfl, by simp, hq, by simp, hq⟩
    · refine ⟨['='], rfl, by simp, List.all_eq_true.1 (by decide), ?_⟩
      rcases spellEquals_cases last with h | h <;> simp [h, isOrdinary, remarkable]
  split
  · rename_i hc
    obtain ⟨rfl, h⟩ := hc
    obtain ⟨more, rfl⟩ : ∃ more, rest = '>' :: more := List.head?_eq_some_iff.1 h
    have hq : ∀ a ∈ ['!', '='], isOrdinary a := List.all_eq_true.1 (by decide)
    exact .inr ⟨['<', '>'], rfl, by simp, List.all_eq_true.1 (by decide), by simp, hq⟩
  split
  · rename_i hn
    obtain ⟨number, zero, h1, h2, h3, h4⟩ := spanNumber_spec (c :: rest)
    have hlt := length_spanNumber_lt c rest (hn.imp id And.left)
    have hne : number ≠ [] := by
      rintro rfl
      rw [List.nil_append] at h1
      rw [← h1] at hlt
      exact Nat.lt_irrefl _ hlt
    refine .inr ⟨number, h1, hne, h3, by simp [h2, hne], fun a ha => ?_⟩
    rw [h2] at ha
    exact (List.mem_append.1 ha).elim (h3 a) (h4 a)
  split
  · rename_i hw
    have hc : isOrdinary c := isOrdinary_of (p := fun c => isAlphabetic c || c == '_') (by decide) hw
    have hword : ∀ a ∈ c :: rest.takeWhile isNamePart, isOrdinary a := fun a ha =>
      (List.mem_cons.1 ha).elim (· ▸ hc) fun h => isOrdinary_of_isNamePart (List.mem_takeWhile_imp h)
    refine .inr ⟨c :: rest.takeWhile isNamePart, ?_, by simp, hword, respell_ne_nil (by simp),
      isOrdinary_of_mem_respell hword⟩
    simp [List.takeWhile_append_dropWhile]
  · exact .inl rfl

/-! ## Dividers -/

/-- A character that nothing before it goes on with, and that is copied: no part of a name or a number, no sign of
an exponent or a comparison, and no quote. -/
def Divides (m : Char) : Prop :=
  isNamePart m = false ∧ m.isDigit = false ∧ m ∉ ['"', '\'', '=', '<', '>', '.', '+', '-']

instance (m : Char) : Decidable (Divides m) := inferInstanceAs (Decidable (_ ∧ _ ∧ _))

/-- The code points of the blanks. -/
def blankCodes : List Nat :=
  [9, 10, 11, 12, 13, 32, 133, 160, 5760] ++ List.range' 8192 11 ++ [8232, 8233, 8239, 8287, 12288]

theorem mem_blankCodes {c : Char} (h : isBlank c) : c.toNat ∈ blankCodes := by
  simp only [isBlank, Bool.or_eq_true, Bool.and_eq_true, decide_eq_true_eq, beq_iff_eq] at h
  simp only [blankCodes, List.mem_append, List.mem_range'_1, List.mem_cons, List.not_mem_nil, or_false]
  omega

theorem divides_blankCodes : ∀ n ∈ blankCodes, Divides (Char.ofNat n) := by decide +kernel

theorem divides_of_isBlank {c : Char} (h : isBlank c) : Divides c := by
  have hd := divides_blankCodes _ (mem_blankCodes h)
  rwa [Char.ofNat_toNat] at hd

theorem normalizeStep_divider {m : Char} (hm : Divides m) (last : Option Char) (more : List Char) :
    normalizeStep last m more = ([m], more) := by
  obtain ⟨hn, hd, hs⟩ := hm
  have ha : (isAlphabetic m || m == '_') = false := by
    simp only [isNamePart, isAlphanumeric, Bool.or_eq_false_iff] at hn
    simp [hn]
  simp only [List.mem_cons, List.not_mem_nil, or_false, not_or] at hs
  simp [normalizeStep, hs, hd, ha]

section

variable {m : Char} (rest more : List Char)

theorem takeWhile_divided {p : Char → Bool} (h : p m = false) :
    (rest ++ m :: more).takeWhile p = rest.takeWhile p := by
  induction rest with
  | nil => simp [h]
  | cons c rest ih => cases hc : p c <;> simp [hc, ih]

theorem dropWhile_divided {p : Char → Bool} (h : p m = false) :
    (rest ++ m :: more).dropWhile p = rest.dropWhile p ++ m :: more := by
  induction rest with
  | nil => simp [h]
  | cons c rest ih => cases hc : p c <;> simp [hc, ih]

theorem head?_divided_eq_some {c : Char} (h : c ≠ m) : (rest ++ m :: more).head? = some c ↔ rest.head? = some c := by
  cases rest with
  | nil => simp [h.symm]
  | cons a rest => simp

variable (hm : Divides m)

include hm

theorem isNumberSuffix_divider : isNumberSuffix m = false := by
  have hn := hm.1
  simp only [isNamePart, Bool.or_eq_false_iff] at hn
  simp [isNumberSuffix, hn]

theorem spanExponentMark_divided : spanExponentMark (rest ++ m :: more) =
    ((spanExponentMark rest).1, (spanExponentMark rest).2 ++ m :: more) := by
  have hsign : ¬(m = '+' ∨ m = '-') := fun h => hm.2.2 (by rcases h with rfl | rfl <;> decide)
  have hmark : ¬(m = 'e' ∨ m = 'E') := fun h => by
    rcases h with rfl | rfl
    · exact absurd hm.1 (by decide)
    · exact absurd hm.1 (by decide)
  match rest with
  | [] => simp [spanExponentMark, hmark]
  | [e] => by_cases he : e = 'e' ∨ e = 'E' <;> simp [spanExponentMark, he, hsign]
  | e :: s :: rest =>
    by_cases he : e = 'e' ∨ e = 'E' <;> by_cases hs : s = '+' ∨ s = '-' <;> simp [spanExponentMark, he, hs]

theorem spanNumber_divided :
    spanNumber (rest ++ m :: more) = ((spanNumber rest).1, (spanNumber rest).2 ++ m :: more) := by
  have hs := isNumberSuffix_divider hm
  have hp : isDecimalPart m = false := by
    have hpoint : m ≠ '.' := fun h => hm.2.2 (by simp [h])
    simp [isDecimalPart, hm.2.1, hpoint]
  have ht : (rest ++ m :: more).takeWhile (fun c => c.isDigit || c == '.') = _ := takeWhile_divided rest more hp
  have hd : (rest ++ m :: more).dropWhile (fun c => c.isDigit || c == '.') = _ := dropWhile_divided rest more hp
  simp only [spanNumber, ht, hd, spanExponentMark_divided _ _ hm, takeWhile_divided _ _ hs, dropWhile_divided _ _ hs]

/-- A step is the same in front of a divider, if it does not begin a literal. -/
theorem normalizeStep_divided (last : Option Char) {c : Char} (hd : c ≠ '"') (hs : c ≠ '\'') :
    normalizeStep last c (rest ++ m :: more) =
      ((normalizeStep last c rest).1, (normalizeStep last c rest).2 ++ m :: more) := by
  have hnum : (rest ++ m :: more).head?.any Char.isDigit = rest.head?.any Char.isDigit := by
    cases rest with
    | nil => simpa using hm.2.1
    | cons a rest => rfl
  have hequals : m ≠ '=' := fun h => hm.2.2 (by simp [h])
  have hgreater : '>' ≠ m := fun h => hm.2.2 (by simp [← h])
  unfold normalizeStep
  simp only [if_neg hd, if_neg hs, hnum, head?_divided_eq_some rest more hgreater]
  split
  · cases rest with
    | nil => simp [hequals]
    | cons a rest => by_cases ha : a = '=' <;> simp [ha]
  split
  · rename_i h
    obtain ⟨tail, rfl⟩ : ∃ tail, rest = '>' :: tail := List.head?_eq_some_iff.1 h.2
    rfl
  split
  · rw [← List.cons_append, spanNumber_divided _ _ hm]
  split
  · rw [takeWhile_divided _ _ hm.1, dropWhile_divided _ _ hm.1]
  · rfl

end

/-- Without a quote a reader stays outside of literals. -/
theorem step_outside {l : Language} {d : Nat} {b : Bool} {c : Char} {r : Reader} (hq : l.isQuote c = false)
    (h : step l (outside d b) c = some r) : ∃ d' b', r = outside d' b' := by
  simp only [step, hq, Bool.false_eq_true, if_false] at h
  repeat' split at h
  all_goals cases h
  all_goals exact ⟨_, _, rfl⟩

/-- A step takes a reader that gets through the text from outside to outside, and the same step is made in
front of a divider. -/
theorem read_normalizeStep {d d' : Nat} {b b' : Bool} (last : Option Char) {c : Char} {rest : List Char}
    (h : read .dialect (outside d b) (c :: rest) = some (outside d' b')) :
    (∃ d₁ b₁, read .evaluator (outside d b) (normalizeStep last c rest).1 = some (outside d₁ b₁) ∧
      read .dialect (outside d₁ b₁) (normalizeStep last c rest).2 = some (outside d' b')) ∧
    ∀ {m : Char}, Divides m → ∀ more, normalizeStep last c (rest ++ m :: more) =
      ((normalizeStep last c rest).1, (normalizeStep last c rest).2 ++ m :: more) := by
  have ho : step .evaluator (outside d b) '"' = some (inside d '"') := by simp [step, Language.isQuote]
  by_cases hd : c = '"'
  · subst hd
    have hi : step .dialect (outside d b) '"' = some (inside d '"') := by simp [step, Language.isQuote]
    rw [read_cons, hi, Option.bind_some] at h
    obtain ⟨h1, h2⟩ := read_spanText h
    refine ⟨⟨d, false, ?_, h2⟩, fun _ more => by simp [normalizeStep, spanText_closing h1]⟩
    change read .evaluator (outside d b) ('"' :: (spanText rest).1) = _
    rw [read_cons, ho, Option.bind_some, h1.read]
  by_cases hs : c = '\''
  · subst hs
    have hi : step .dialect (outside d b) '\'' = some (inside d '\'') := by simp [step, Language.isQuote]
    rw [read_cons, hi, Option.bind_some] at h
    obtain ⟨h1, h2, h3⟩ := read_requote h
    refine ⟨⟨d, false, ?_, h2⟩, fun _ more => by simp [normalizeStep, h3]⟩
    change read .evaluator (outside d b) ('"' :: (requote rest).1) = _
    rw [read_cons, ho, Option.bind_some, h1.read]
  refine ⟨?_, fun hm more => normalizeStep_divided rest more hm last hd hs⟩
  rcases normalizeStep_cases last rest hd hs with he | ⟨cs, h1, h2, h3, h4, h5⟩
  · -- outside of literals a character that is no quote is read alike in both languages
    have hq : Language.isQuote .dialect c = false := by simp [Language.isQuote, hd, hs]
    have hl : step .evaluator (outside d b) c = step .dialect (outside d b) c := by
      simp [step, Language.isQuote, hd, hs]
    rw [read_cons] at h
    obtain ⟨r, hr, h⟩ := Option.bind_eq_some_iff.1 h
    obtain ⟨d₁, b₁, rfl⟩ := step_outside hq hr
    rw [he]
    exact ⟨d₁, b₁, by rw [read_cons, hl, hr]; rfl, h⟩
  · rw [h1, read_append, read_ordinary .dialect d b h2 h3, Option.bind_some] at h
    exact ⟨d, false, read_ordinary .evaluator d b h4 h5, h⟩

/-! ## The whole rewriting -/

/-- A reader gets through the rewritten text as through the text. -/
theorem read_normalizeAfter {d d' : Nat} {b b' : Bool} (last : Option Char) {cs : List Char}
    (h : read .dialect (outside d b) cs = some (outside d' b')) :
    read .evaluator (outside d b) (normalizeAfter last cs) = some (outside d' b') := by
  induction last, cs using normalizeAfter.induct generalizing d b with
  | case1 last =>
    rw [normalizeAfter]
    exact h
  | case2 last c rest step =>
    rename_i ih
    obtain ⟨⟨d₁, b₁, h1, h2⟩, -⟩ := read_normalizeStep last h
    rw [normalizeAfter, read_append, h1, Option.bind_some]
    exact ih h2

/-- **Rewriting stops at a divider**: the text before it is rewritten by itself. -/
theorem normalizeAfter_append {m : Char} (hm : Divides m) {d d' : Nat} {b b' : Bool} (last : Option Char)
    {cs : List Char} (h : read .dialect (outside d b) cs = some (outside d' b')) (more : List Char) :
    normalizeAfter last (cs ++ m :: more) = normalizeAfter last cs ++ m :: normalizeAfter (some m) more := by
  induction last, cs using normalizeAfter.induct generalizing d b with
  | case1 last =>
    rw [List.nil_append, normalizeAfter.eq_2, normalizeStep_divider hm, normalizeAfter.eq_1]
    rfl
  | case2 last c rest step =>
    rename_i ih
    obtain ⟨⟨d₁, b₁, -, h2⟩, h3⟩ := read_normalizeStep last h
    rw [List.cons_append, normalizeAfter, normalizeAfter, h3 hm, ih h2, List.append_assoc]

/-- The character before a text matters only to an equals sign. -/
theorem normalizeAfter_congr {last last' : Option Char} (h : spellEquals last = spellEquals last') :
    ∀ cs : List Char, normalizeAfter last cs = normalizeAfter last' cs
  | [] => by rw [normalizeAfter, normalizeAfter]
  | c :: rest => by
    have hs : normalizeStep last c rest = normalizeStep last' c rest := by
      unfold normalizeStep
      rw [h]
    have hn : (normalizeStep last c rest).1 ≠ [] := by
      by_cases hd : c = '"'
      · simp [normalizeStep, hd]
      by_cases hq : c = '\''
      · simp [normalizeStep, hq]
      rcases normalizeStep_cases last rest hd hq with he | ⟨_, _, _, _, h4, _⟩
      · simp [he]
      · exact h4
    obtain ⟨a, ha⟩ := Option.isSome_iff_exists.1 (List.getLast?_isSome.2 hn)
    rw [normalizeAfter, normalizeAfter, ← hs, ha]
    rfl

end FraudScreen.Expr
