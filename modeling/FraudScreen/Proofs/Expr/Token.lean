import FraudScreen.Expr.Token
import FraudScreen.Proofs.Expr.Reading

/-!
# Tokens of a text within other text

A text that a reader gets through has the fragments of its own in front of an operator character
(`readFragments_append_mark`), and these have the tokens of their own in front of one that no operator goes on
with (`tokensOf_append_mark`). So a text that stands alone has its own tokens in parentheses:
`Spells.parenthesized`.
-/
namespace FraudScreen.Expr

open Text Reader

/-! ## Literals -/

theorem readText_cons_ok {c : Char} {cs s rest : List Char}
    (h : (do let (s, more) ← readText cs; return (c :: s, more)) = Except.ok (s, rest)) :
    ∃ t, readText cs = .ok (t, rest) ∧ s = c :: t := by
  cases hr : readText cs with
  | error e => simp [hr, bind, Except.bind] at h
  | ok p =>
    simp only [hr, bind, Except.bind, pure, Except.pure, Except.ok.injEq, Prod.mk.injEq] at h
    obtain ⟨rfl, rfl⟩ := h
    exact ⟨p.1, rfl, rfl⟩

/-- What follows a literal that can be read is what follows its closing quote. -/
theorem spanText_of_readText {cs s more : List Char} (h : readText cs = .ok (s, more)) :
    (spanText cs).2 = more := by
  fun_induction readText cs generalizing s more with
  | case1 | case5 | case6 => cases h
  | case2 rest =>
    cases h
    rfl
  | case3 rest ih | case4 rest ih =>
    obtain ⟨t, ht, -⟩ := readText_cons_ok h
    exact ih ht
  | case7 c rest hq h1 h2 h3 h4 ih =>
    obtain ⟨t, ht, -⟩ := readText_cons_ok h
    rw [spanText, ih ht]
    · exact fun a rest' => h3 a rest'
    · exact hq

/-- A literal that ends is read alike, or refused alike, whatever follows it. -/
theorem readText_append_of_read {l : Language} {d d' : Nat} {b : Bool} {cs : List Char}
    (h : read l (inside d '"') cs = some (outside d' b)) (more : List Char) :
    readText (cs ++ more) = (readText cs).map fun (s, left) => (s, left ++ more) := by
  fun_induction readText cs with
  | case1 => simp at h
  | case2 rest => rfl
  | case3 rest ih | case4 rest ih =>
    have h : read l (inside d '"') rest = some (outside d' b) := h
    simp only [List.cons_append, readText, ih h]
    cases readText rest <;> rfl
  | case5 c rest => simp [readText, Except.map]
  | case6 => simp [read_cons, step] at h
  | case7 c rest hq h1 h2 h3 h4 ih =>
    have hb : c ≠ '\\' := fun hb => by
      cases hr : rest with
      | nil => exact h4 hb hr
      | cons a rest' => exact h3 a rest' hb hr
    rw [read_cons, step_inside l d hb hq, Option.bind_some] at h
    have hcons : readText (c :: (rest ++ more)) =
        (do let (s, left) ← readText (rest ++ more); return (c :: s, left)) := by simp [readText, hb]
    rw [List.cons_append, hcons, ih h]
    cases readText rest <;> rfl

/-! ## Fragments -/

/-- Fragments, in reverse, after which a character begins a word of its own. -/
def EndsWord : List Fragment → Prop
  | .word _ :: _ => False
  | _ => True

theorem extendWord_append {done : List Fragment} (hd : EndsWord done) (c : Char) :
    ∀ acc : List Fragment, extendWord c (acc ++ done) = extendWord c acc ++ done
  | [] => by
    match done, hd with
    | [], _ | .text _ :: _, _ | .blank :: _, _ | .mark _ :: _, _ => rfl
  | .word _ :: _ | .text _ :: _ | .blank :: _ | .mark _ :: _ => rfl

/-- The fragments after one more character, which neither begins a literal nor a comment. -/
def addChar (c : Char) (done : List Fragment) : List Fragment :=
  if isMark c then .mark c :: done else if isBlank c then .blank :: done else extendWord c done

theorem addChar_append {done : List Fragment} (hd : EndsWord done) (c : Char) (acc : List Fragment) :
    addChar c (acc ++ done) = addChar c acc ++ done := by
  unfold addChar
  split
  · rfl
  split
  · rfl
  · exact extendWord_append hd c acc

theorem readFragments_text {cs s more : List Char} (h : readText cs = .ok (s, more)) (done : List Fragment) :
    readFragments done ('"' :: cs) = readFragments (.text (String.ofList s) :: done) more := by
  rw [readFragments, if_pos rfl]
  split
  · rename_i e he
    rw [h] at he
    cases he
  · rename_i he
    rw [h] at he
    cases he
    rfl

theorem readFragments_text_error {cs : List Char} {e : SyntaxError} (h : readText cs = .error e)
    (done : List Fragment) :
    readFragments done ('"' :: cs) = .error e := by
  rw [readFragments, if_pos rfl]
  split
  · rename_i he
    rw [h] at he
    cases he
    rfl
  · rename_i he
    rw [h] at he
    cases he

theorem readFragments_char {c : Char} {cs : List Char} (hq : c ≠ '"')
    (hc : c = '/' → cs.head? ≠ some '/' ∧ cs.head? ≠ some '*') (done : List Fragment) :
    readFragments done (c :: cs) = readFragments (addChar c done) cs := by
  have h1 : ¬ (c = '/' ∧ cs.head? = some '/') := fun h => (hc h.1).1 h.2
  have h2 : ¬ (c = '/' ∧ cs.head? = some '*') := fun h => (hc h.1).2 h.2
  rw [readFragments, if_neg hq, if_neg h1, if_neg h2, addChar]
  split
  · rfl
  split <;> rfl

theorem readFragments_mark {c : Char} (hm : isMark c) (hq : c ≠ '"') (hs : c ≠ '/') (done : List Fragment)
    (more : List Char) : readFragments done (c :: more) = readFragments (.mark c :: done) more := by
  rw [readFragments_char hq (fun e => absurd e hs), addChar, if_pos hm]

theorem readFragments_closing (done : List Fragment) (more : List Char) :
    readFragments done (')' :: more) = readFragments (.mark ')' :: done) more :=
  readFragments_mark (by decide) (by decide) (by decide) done more

/-- A character of a word. -/
def isWordPart (c : Char) : Bool := !isMark c && !isBlank c && c != '"'

theorem readFragments_wordPart {c : Char} (h : isWordPart c) (done : List Fragment) (more : List Char) :
    readFragments done (c :: more) = readFragments (extendWord c done) more := by
  simp only [isWordPart, Bool.and_eq_true, Bool.not_eq_true', bne_iff_ne] at h
  obtain ⟨⟨hm, hb⟩, hq⟩ := h
  have hs : c ≠ '/' := by
    rintro rfl
    exact absurd hm (by decide)
  rw [readFragments_char hq (fun e => absurd e hs), addChar, hm, hb]
  rfl

theorem extendWord_of_endsWord {done : List Fragment} (hd : EndsWord done) (c : Char) :
    extendWord c done = .word [c] :: done := by
  match done, hd with
  | [], _ | .text _ :: _, _ | .blank :: _, _ | .mark _ :: _, _ => rfl

theorem readFragments_wordParts : ∀ {cs : List Char}, (∀ c ∈ cs, isWordPart c) → ∀ (word : List Char)
    (done : List Fragment) (more : List Char),
      readFragments (.word word :: done) (cs ++ more) = readFragments (.word (word ++ cs) :: done) more
  | [], _, word, done, more => by rw [List.nil_append, List.append_nil]
  | c :: cs, h, word, done, more => by
    obtain ⟨hc, hcs⟩ := List.forall_mem_cons.1 h
    rw [List.cons_append, readFragments_wordPart hc, extendWord, readFragments_wordParts hcs, List.append_assoc]
    rfl

/-- A run of such characters is one word. -/
theorem readFragments_word {cs : List Char} (hne : cs ≠ []) (h : ∀ c ∈ cs, isWordPart c) {done : List Fragment}
    (hd : EndsWord done) (more : List Char) :
    readFragments done (cs ++ more) = readFragments (.word cs :: done) more := by
  match cs, hne with
  | c :: cs, _ =>
    obtain ⟨hc, hcs⟩ := List.forall_mem_cons.1 h
    rw [List.cons_append, readFragments_wordPart hc, extendWord_of_endsWord hd, readFragments_wordParts hcs]
    rfl

/-- A reader does not get into a comment. -/
theorem not_comment {l : Language} {d : Nat} {b : Bool} {c : Char} {cs : List Char} {r : Reader}
    (h : read l (outside d b) (c :: cs) = some r) : c = '/' → cs.head? ≠ some '/' ∧ cs.head? ≠ some '*' := by
  rintro rfl
  rw [read_cons] at h
  obtain ⟨r₁, h₁, h⟩ := Option.bind_eq_some_iff.1 h
  have hr : r₁ = outside d true := by
    cases l <;> simp_all [step, Language.isQuote]
  cases cs with
  | nil => simp
  | cons a cs =>
    rw [hr, read_cons] at h
    obtain ⟨r₂, h₂, -⟩ := Option.bind_eq_some_iff.1 h
    simp only [step, Option.ite_none_left_eq_some, true_and, not_or] at h₂
    simpa using h₂.1

theorem head?_append_of_ne {m a : Char} (h : m ≠ a) (rest more : List Char) (hr : rest.head? ≠ some a) :
    (rest ++ m :: more).head? ≠ some a := by
  cases rest with
  | nil => simpa using h
  | cons c rest => exact hr

/-- **A text has the fragments of its own** in front of an operator character that is no part of a comment. -/
theorem readFragments_append_mark {m : Char} (hm : isMark m) (hq : m ≠ '"') (hcomment : m ∉ ['/', '*'])
    (more : List Char) {d d' : Nat} {b b' : Bool} {cs : List Char}
    (h : read .evaluator (outside d b) cs = some (outside d' b')) (done : List Fragment) :
    readFragments done (cs ++ m :: more) =
      (readFragments done cs).bind fun fs => readFragments (.mark m :: fs.reverse) more := by
  obtain ⟨hslash, hstar⟩ : m ≠ '/' ∧ m ≠ '*' := by simpa using hcomment
  match cs with
  | [] =>
    rw [readFragments.eq_1, List.nil_append, readFragments_mark hm hq hslash]
    simp [Except.bind]
  | c :: rest =>
    by_cases hc : c = '"'
    · subst hc
      have hi : step .evaluator (outside d b) '"' = some (inside d '"') := by simp [step, Language.isQuote]
      rw [read_cons, hi, Option.bind_some] at h
      have hr := readText_append_of_read h (m :: more)
      cases ht : readText rest with
      | error e =>
        rw [ht] at hr
        rw [List.cons_append, readFragments_text_error hr, readFragments_text_error ht]
        rfl
      | ok p =>
        obtain ⟨s, left⟩ := p
        have hlt := length_readText_le ht
        rw [ht] at hr
        have h := (read_spanText h).2
        rw [spanText_of_readText ht] at h
        rw [List.cons_append, readFragments_text hr, readFragments_text ht]
        exact readFragments_append_mark hm hq hcomment more h _
    · have hcomm := not_comment h
      have hl : Language.isQuote .evaluator c = false := by simp [Language.isQuote, hc]
      rw [read_cons] at h
      obtain ⟨r, hr, h⟩ := Option.bind_eq_some_iff.1 h
      obtain ⟨d₁, b₁, rfl⟩ := step_outside hl hr
      have hcomm' : c = '/' → (rest ++ m :: more).head? ≠ some '/' ∧ (rest ++ m :: more).head? ≠ some '*' :=
        fun e => ⟨head?_append_of_ne hslash rest more (hcomm e).1, head?_append_of_ne hstar rest more (hcomm e).2⟩
      rw [List.cons_append, readFragments_char hc hcomm', readFragments_char hc hcomm]
      exact readFragments_append_mark hm hq hcomment more h _
termination_by cs.length

/-- Fragments that were read before stay in front, whatever follows. -/
theorem readFragments_append_done {done : List Fragment} (hd : EndsWord done) :
    ∀ (cs : List Char) (acc : List Fragment),
      readFragments (acc ++ done) cs = (readFragments acc cs).map (done.reverse ++ ·)
  | [], acc => by simp [readFragments, Except.map]
  | c :: rest, acc => by
    by_cases hq : c = '"'
    · subst hq
      cases ht : readText rest with
      | error e =>
        rw [readFragments_text_error ht, readFragments_text_error ht]
        rfl
      | ok p =>
        obtain ⟨s, left⟩ := p
        have hlt := length_readText_le ht
        rw [readFragments_text ht, readFragments_text ht, ← List.cons_append]
        exact readFragments_append_done hd left _
    by_cases hslash : c = '/' ∧ rest.head? = some '/'
    · have h (done) : readFragments done (c :: rest) = readFragments done (skipLine rest.tail) := by
        rw [readFragments, if_neg hq, if_pos hslash]
      have hlt := length_skipLine_le rest.tail
      rw [h, h]
      exact readFragments_append_done hd _ acc
    by_cases hstar : c = '/' ∧ rest.head? = some '*'
    · cases hb : skipBlock rest.tail with
      | none =>
        have h (done) : readFragments done (c :: rest) = .error .unclosedComment := by
          rw [readFragments, if_neg hq, if_neg hslash, if_pos hstar]
          split
          · rfl
          · simp_all
        rw [h, h]
        rfl
      | some more =>
        have h (done) : readFragments done (c :: rest) = readFragments done more := by
          rw [readFragments, if_neg hq, if_neg hslash, if_pos hstar]
          split <;> simp_all
        have hlt := length_skipBlock_le hb
        rw [h, h]
        exact readFragments_append_done hd more acc
    · have hc : c = '/' → rest.head? ≠ some '/' ∧ rest.head? ≠ some '*' :=
        fun e => ⟨fun h => hslash ⟨e, h⟩, fun h => hstar ⟨e, h⟩⟩
      rw [readFragments_char hq hc, readFragments_char hq hc, addChar_append hd]
      exact readFragments_append_done hd rest _
termination_by cs => cs.length
decreasing_by
  all_goals simp only [List.length_cons, List.length_tail] at *
  all_goals omega

/-! ## Tokens -/

theorem bind_eq_ok {ε α β : Type} {x : Except ε α} {f : α → Except ε β} {b : β} (h : x >>= f = .ok b) :
    ∃ a, x = .ok a ∧ f a = .ok b := by
  cases x with
  | error e => cases h
  | ok a => exact ⟨a, rfl, h⟩

theorem map_eq_ok {ε α β : Type} {x : Except ε α} {f : α → β} {b : β} (h : x.map f = .ok b) :
    ∃ a, x = .ok a ∧ f a = b := by
  cases x with
  | error e => cases h
  | ok a => exact ⟨a, rfl, Except.ok.inj h⟩

section

variable (fs : List Fragment)

theorem tokensOf_text (s : String) :
    tokensOf (.text s :: fs) = (tokensOf fs).map (.const (.text s) :: ·) := by
  rw [tokensOf]
  cases tokensOf fs <;> rfl

theorem tokensOf_word (cs : List Char) :
    tokensOf (.word cs :: fs) = (tokensOf (classifyWord cs fs).2).map ((classifyWord cs fs).1 :: ·) := by
  rw [tokensOf]
  cases tokensOf (classifyWord cs fs).2 <;> rfl

theorem tokensOf_mark {c : Char} {s : Sign} {left : List Fragment} (h : combineMark c fs = .ok (s, left)) :
    tokensOf (.mark c :: fs) = (tokensOf left).map (.sign s :: ·) := by
  rw [tokensOf]
  split
  · rename_i e he
    rw [h] at he
    cases he
  · rename_i he
    rw [h] at he
    cases he
    cases tokensOf left <;> rfl

end

theorem tokensOf_mark_error {c : Char} {fs : List Fragment} {e : SyntaxError} (h : combineMark c fs = .error e) :
    tokensOf (.mark c :: fs) = .error e := by
  rw [tokensOf]
  split
  · rename_i he
    rw [h] at he
    cases he
    rfl
  · rename_i he
    rw [h] at he
    cases he

theorem tokensOf_closing (more : List Fragment) :
    tokensOf (.mark ')' :: more) = (tokensOf more).map (.sign .closing :: ·) :=
  tokensOf_mark more rfl

/-- The mark is no second half of an operator and no sign of an exponent. -/
def Separates (m : Char) : Prop := m ∉ ['=', '+', '-', '&', '|']

instance (m : Char) : Decidable (Separates m) := inferInstanceAs (Decidable (m ∉ _))

section

variable {m : Char} (hm : Separates m)

include hm

theorem withEquals_append (joined alone : Sign) (fs : List Fragment) :
    let combined (fs : List Fragment) : Except SyntaxError (Sign × List Fragment) :=
      match fs with
      | .mark '=' :: more => .ok (joined, more)
      | _ => .ok (alone, fs)
    ∃ s left, combined fs = .ok (s, left) ∧
      ∀ more, combined (fs ++ .mark m :: more) = .ok (s, left ++ .mark m :: more) := by
  have heq : m ≠ '=' := fun he => hm (by simp [he])
  match fs with
  | [] => exact ⟨alone, [], rfl, fun more => by simp [heq]⟩
  | .mark e :: rest =>
    by_cases he : e = '='
    · subst he
      exact ⟨joined, rest, rfl, fun more => rfl⟩
    · exact ⟨alone, .mark e :: rest, by simp [he], fun more => by simp [he]⟩
  | .text s :: rest => exact ⟨alone, .text s :: rest, rfl, fun more => rfl⟩
  | .word s :: rest => exact ⟨alone, .word s :: rest, rfl, fun more => rfl⟩
  | .blank :: rest => exact ⟨alone, .blank :: rest, rfl, fun more => rfl⟩

theorem doubled_append {c : Char} (hc : m ≠ c) (joined assigned : Sign) (fs : List Fragment) :
    let combined (fs : List Fragment) : Except SyntaxError (Sign × List Fragment) :=
      match fs with
      | .mark d :: more =>
        if d = c then
          match more with
          | .mark '=' :: final => .ok (assigned, final)
          | _ => .ok (joined, more)
        else .error (.halfOperator c (some (Fragment.mark d).show))
      | next :: _ => .error (.halfOperator c (some next.show))
      | [] => .error (.halfOperator c none)
    (∃ s left, combined fs = .ok (s, left) ∧
        ∀ more, combined (fs ++ .mark m :: more) = .ok (s, left ++ .mark m :: more)) ∨
      ∃ e e', combined fs = .error e ∧ ∀ more, combined (fs ++ .mark m :: more) = .error e' := by
  match fs with
  | [] => exact .inr ⟨_, _, rfl, fun more => if_neg hc⟩
  | .mark d :: rest =>
    by_cases hd : d = c
    · obtain ⟨s, left, ha, h⟩ := withEquals_append hm assigned joined rest
      exact .inl ⟨s, left, (if_pos hd).trans ha, fun more => (if_pos hd).trans (h more)⟩
    · exact .inr ⟨_, _, if_neg hd, fun more => if_neg hd⟩
  | .text s :: rest => exact .inr ⟨_, .halfOperator c (some (Fragment.text s).show), rfl, fun _ => rfl⟩
  | .word s :: rest => exact .inr ⟨_, .halfOperator c (some (Fragment.word s).show), rfl, fun _ => rfl⟩
  | .blank :: rest => exact .inr ⟨_, .halfOperator c (some Fragment.blank.show), rfl, fun _ => rfl⟩

/-- What an operator is combined of does not depend on what follows a mark that separates. -/
theorem combineMark_append (c : Char) (fs : List Fragment) :
    (∃ s left, combineMark c fs = .ok (s, left) ∧
        ∀ more, combineMark c (fs ++ .mark m :: more) = .ok (s, left ++ .mark m :: more)) ∨
      ∃ e e', combineMark c fs = .error e ∧ ∀ more, combineMark c (fs ++ .mark m :: more) = .error e' := by
  have hand : m ≠ '&' := fun he => hm (by simp [he])
  have hor : m ≠ '|' := fun he => hm (by simp [he])
  simp only [combineMark]
  split
  case h_11 => exact doubled_append hm hand _ _ fs
  case h_12 => exact doubled_append hm hor _ _ fs
  all_goals first
    | exact .inl (withEquals_append hm _ _ fs)
    | exact .inl ⟨_, fs, rfl, fun _ => rfl⟩

theorem readSplitNumber?_append (cs : List Char) (fs more : List Fragment) :
    readSplitNumber? cs (fs ++ .mark m :: more) =
      (readSplitNumber? cs fs).map fun (x, left) => (x, left ++ .mark m :: more) := by
  match fs with
  | [] =>
    have hs : ¬(m = '+' ∨ m = '-') := fun he => hm (by rcases he with rfl | rfl <;> simp)
    match more with
    | .word _ :: _ => simp [readSplitNumber?, hs]
    | [] | .text _ :: _ | .blank :: _ | .mark _ :: _ => simp [readSplitNumber?]
  | .text _ :: _ | .word _ :: _ | .blank :: _ => rfl
  | [.mark c] => rfl
  | .mark c :: .text _ :: _ | .mark c :: .blank :: _ | .mark c :: .mark _ :: _ => rfl
  | .mark c :: .word ds :: left =>
    by_cases hc : c = '+' ∨ c = '-'
    · simp [readSplitNumber?, hc, Function.comp_def]
    · simp [readSplitNumber?, hc]

theorem classifyWord_append (cs : List Char) (fs more : List Fragment) :
    classifyWord cs (fs ++ .mark m :: more) =
      ((classifyWord cs fs).1, (classifyWord cs fs).2 ++ .mark m :: more) := by
  unfold classifyWord
  rw [readSplitNumber?_append hm]
  split
  · rfl
  cases readSplitNumber? cs fs <;> rfl

/-- **What fragments give does not depend on what follows a mark that separates.** They give their own tokens, if
they have any. -/
theorem tokensOf_append_mark (fs : List Fragment) : ∃ x : Except SyntaxError (List Token),
    (∀ ts, tokensOf fs = .ok ts → x = .ok ts) ∧
      ∀ more, tokensOf (fs ++ .mark m :: more) = x.bind fun ts => (tokensOf (.mark m :: more)).map (ts ++ ·) := by
  -- a token in front of the others
  have hcons {t : Token} {rest : List Fragment} (ih : ∃ x : Except SyntaxError (List Token),
      (∀ ts, tokensOf rest = .ok ts → x = .ok ts) ∧
        ∀ more, tokensOf (rest ++ .mark m :: more) = x.bind fun ts => (tokensOf (.mark m :: more)).map (ts ++ ·)) :
      ∃ x : Except SyntaxError (List Token), (∀ ts, (tokensOf rest).map (t :: ·) = .ok ts → x = .ok ts) ∧
        ∀ more, (tokensOf (rest ++ .mark m :: more)).map (t :: ·) =
          x.bind fun ts => (tokensOf (.mark m :: more)).map (ts ++ ·) := by
    obtain ⟨x, hx, h⟩ := ih
    refine ⟨x.map (t :: ·), fun ts hts => ?_, fun more => ?_⟩
    · obtain ⟨us, hu, rfl⟩ := map_eq_ok hts
      rw [hx us hu]
      rfl
    · rw [h]
      cases x <;> cases tokensOf (.mark m :: more) <;> rfl
  induction fs using tokensOf.induct with
  | case1 =>
    refine ⟨.ok [], fun ts h => ?_, fun more => ?_⟩
    · rwa [tokensOf] at h
    · rw [List.nil_append]
      cases tokensOf (.mark m :: more) <;> rfl
  | case2 rest ih =>
    have h (fs) : tokensOf (.blank :: fs) = tokensOf fs := by rw [tokensOf]
    simp only [List.cons_append, h]
    exact ih
  | case3 s rest ih =>
    simp only [List.cons_append, tokensOf_text]
    exact hcons ih
  | case4 cs rest _ ih =>
    simp only [List.cons_append, tokensOf_word, classifyWord_append hm]
    exact hcons ih
  | case5 c rest e he =>
    obtain ⟨s, left, hs, -⟩ | ⟨e, e', -, h⟩ := combineMark_append hm c rest
    · rw [he] at hs
      cases hs
    · refine ⟨.error e', fun ts hts => ?_, fun more => ?_⟩
      · rw [tokensOf_mark_error he] at hts
        cases hts
      · exact tokensOf_mark_error (h more)
  | case6 c rest s left hs _ ih =>
    obtain ⟨s', left', hs', h⟩ | ⟨e, e', he, -⟩ := combineMark_append hm c rest
    · rw [hs] at hs'
      cases hs'
      simp only [List.cons_append, tokensOf_mark _ hs, tokensOf_mark _ (h _)]
      exact hcons ih
    · rw [hs] at he
      cases he

/-- A word that the evaluator takes for a name where nothing follows it. -/
structure IsName (cs : List Char) (s : String) : Prop where
  ne_nil : cs ≠ []
  wordPart : ∀ c ∈ cs, isWordPart c
  classified : classifyWord cs [] = (.name s, [])

/-- A name is a name in front of a mark that separates. -/
theorem IsName.classifyWord {cs : List Char} {s : String} (h : IsName cs s) (more : List Fragment) :
    FraudScreen.Expr.classifyWord cs (.mark m :: more) = (.name s, .mark m :: more) := by
  have hc := classifyWord_append hm cs [] more
  rwa [List.nil_append, h.classified] at hc

end

/-! ## Texts read apart from what surrounds them -/

/-- A text that gives these fragments and tokens between any others, as long as no word ends right before
it. -/
structure Spells (cs : List Char) (fs : List Fragment) (ts : List Token) : Prop where
  lexed : ∀ done, EndsWord done → ∀ more,
    readFragments done (cs ++ more) = readFragments (fs.reverse ++ done) more
  ends : EndsWord fs.reverse
  combined : ∀ more, tokensOf (fs ++ more) = (tokensOf more).map (ts ++ ·)

theorem EndsWord.append {fs done : List Fragment} (hf : EndsWord fs) (hd : EndsWord done) :
    EndsWord (fs ++ done) := by
  match fs, hf with
  | [], _ => exact hd
  | .text _ :: _, _ | .blank :: _, _ | .mark _ :: _, _ => trivial

/-- The last fragment decides. -/
theorem EndsWord.append_of_ne_nil {fs : List Fragment} (hf : EndsWord fs) (hne : fs ≠ []) (done : List Fragment) :
    EndsWord (fs ++ done) := by
  match fs, hf, hne with
  | .text _ :: _, _, _ | .blank :: _, _, _ | .mark _ :: _, _, _ => trivial

namespace Spells

variable {cs ds : List Char} {fs gs : List Fragment} {ts us : List Token}

theorem fragments_eq (h : Spells cs fs ts) : fragments cs = .ok fs := by
  have hr := h.lexed [] trivial []
  rwa [List.append_nil, List.append_nil, readFragments, List.reverse_reverse] at hr

theorem tokensOf_eq (h : Spells cs fs ts) : tokensOf fs = .ok ts := by
  have hc := h.combined []
  rw [List.append_nil, tokensOf] at hc
  exact hc.trans (congrArg Except.ok (List.append_nil ts))

theorem tokenize (h : Spells cs fs ts) : tokenize cs = .ok ts := by
  rw [FraudScreen.Expr.tokenize, h.fragments_eq]
  exact h.tokensOf_eq

theorem nil : Spells [] [] [] where
  lexed _ _ _ := rfl
  ends := trivial
  combined more := by
    rw [List.nil_append]
    cases tokensOf more <;> rfl

theorem append (h : Spells cs fs ts) (h' : Spells ds gs us) : Spells (cs ++ ds) (fs ++ gs) (ts ++ us) where
  lexed done hd more := by
    rw [List.append_assoc, h.lexed done hd, h'.lexed _ (h.ends.append hd), List.reverse_append,
      List.append_assoc]
  ends := by
    rw [List.reverse_append]
    exact h'.ends.append h.ends
  combined more := by
    rw [List.append_assoc, h.combined, h'.combined]
    cases tokensOf more <;> simp [Except.map]

/-- In parentheses a text that stands alone gives the fragments and tokens of its own. -/
theorem parenthesized (h : standsAlone .evaluator cs) (hf : fragments cs = .ok fs) (ht : tokensOf fs = .ok ts) :
    Spells ('(' :: (cs ++ [')'])) (.mark '(' :: (fs ++ [.mark ')']))
      (.sign .opening :: (ts ++ [.sign .closing])) where
  lexed done _ more := by
    obtain ⟨b, hb⟩ := standsAlone_iff.1 h
    have hd : EndsWord (.mark '(' :: done) := trivial
    have hown := readFragments_append_done hd cs []
    rw [List.nil_append, ← fragments, hf] at hown
    rw [List.cons_append, readFragments_mark (by decide) (by decide) (by decide), List.append_assoc]
    refine (readFragments_append_mark (by rfl : isMark ')') (by decide) (by decide) more hb _).trans ?_
    rw [hown]
    simp [Except.map, Except.bind]
  ends := by simp [EndsWord]
  combined more := by
    have hm : Separates ')' := by decide
    obtain ⟨x, hx, hown⟩ := tokensOf_append_mark hm fs
    rw [List.cons_append, tokensOf_mark _ rfl, List.append_assoc]
    change (tokensOf (fs ++ .mark ')' :: more)).map _ = _
    rw [hown, hx ts ht, tokensOf_closing]
    cases tokensOf more <;> simp [Except.map, Except.bind]

/-- A text that is read apart is so in parentheses. -/
theorem enclosed (h : Spells cs fs ts) :
    Spells ('(' :: (cs ++ [')'])) (.mark '(' :: (fs ++ [.mark ')']))
      (.sign .opening :: (ts ++ [.sign .closing])) where
  lexed done _ more := by
    have hm : EndsWord (.mark '(' :: done) := trivial
    rw [List.cons_append, readFragments_mark (by decide) (by decide) (by decide), List.append_assoc, h.lexed _ hm]
    refine (readFragments_closing _ more).trans ?_
    simp
  ends := by simp [EndsWord]
  combined more := by
    have ha : fs ++ [.mark ')'] ++ more = fs ++ .mark ')' :: more := by simp
    rw [List.cons_append, tokensOf_mark _ rfl, ha, h.combined, tokensOf_closing]
    cases tokensOf more <;> simp [Except.map]

/-- A text that begins with an operator character is read apart from a word in front of it, too. -/
theorem lexed_mark {m : Char} (hm : isMark m) (hq : m ≠ '"') (hs : m ≠ '/') (h : Spells (m :: cs) (.mark m :: fs) ts)
    (done : List Fragment) (more : List Char) :
    readFragments done (m :: (cs ++ more)) = readFragments ((.mark m :: fs).reverse ++ done) more := by
  have hd (done : List Fragment) : EndsWord (.mark m :: done) := trivial
  have hends : EndsWord ((.mark m :: fs).reverse ++ done) := h.ends.append_of_ne_nil (by simp) done
  have hempty := h.lexed [] trivial more
  have hfront := readFragments_append_done (hd done) (cs ++ more) []
  have hfront' := readFragments_append_done (hd []) (cs ++ more) []
  have hback := readFragments_append_done hends more []
  have hback' := readFragments_append_done h.ends more []
  rw [List.nil_append] at hfront hfront' hback hback'
  rw [List.cons_append, readFragments_mark hm hq hs, hfront', List.append_nil, hback'] at hempty
  rw [readFragments_mark hm hq hs, hfront, hback]
  have hmap := congrArg (Except.map (done.reverse ++ ·)) hempty
  cases hx : readFragments [] (cs ++ more) <;> cases hy : readFragments [] more <;>
    simp_all [Except.map]

/-- A name in front of an argument in parentheses. -/
theorem named {name : List Char} {s : String} (hn : IsName name s) (h : Spells ('(' :: cs) (.mark '(' :: fs) ts) :
    Spells (name ++ '(' :: cs) (.word name :: .mark '(' :: fs) (.name s :: ts) where
  lexed done hd more := by
    rw [List.append_assoc, readFragments_word hn.ne_nil hn.wordPart hd, List.cons_append,
      h.lexed_mark (by decide) (by decide) (by decide)]
    simp
  ends := by
    rw [List.reverse_cons]
    exact h.ends.append_of_ne_nil (by simp) _
  combined more := by
    rw [List.cons_append, List.cons_append, tokensOf_word, hn.classifyWord (by decide), ← List.cons_append,
      h.combined]
    cases tokensOf more <;> rfl

end Spells

end FraudScreen.Expr
