import Mathlib
import FraudScreen.Proofs.Expr.Primary

/-!
# The operand of `not`

A primary expression after `not` means the same with and without parentheses around it, wherever a connective, a
separator or the end follows: `compile_not_primary`. Names and numbers must be plain, though, and so must the names of
calls, with their arguments right after them: a sign in an exponent and a blank in front of the arguments end the
operand early. Parentheses within the operand must be paired, and there must be no comment, as comments are rewritten
like the rest: `not_primary_cut`.
-/
namespace FraudScreen.Expr

open Text Reader

/-! ## Primary expressions -/

/-- What a literal holds between its quotes: any character after a backslash, otherwise no quote. -/
inductive IsContent (quote : Char) : List Char → Prop where
  | nil : IsContent quote []
  | escape (c : Char) {cs : List Char} (h : IsContent quote cs) : IsContent quote ('\\' :: c :: cs)
  | char {c : Char} (hq : c ≠ quote) (hb : c ≠ '\\') {cs : List Char} (h : IsContent quote cs) :
      IsContent quote (c :: cs)

/-- A primary expression of the dialect: a name or a number, a literal in either kind of quotes, an expression in
parentheses, or a call, which may have blanks in front of its arguments. -/
inductive Primary where
  | atom (text : String)
  | literal (quote : Char) (content : String)
  | group (body : String)
  | call (name blanks arguments : String)

namespace Primary

def source : Primary → String
  | atom text => text
  | literal quote content => quote.toString ++ content ++ quote.toString
  | group body => "(" ++ body ++ ")"
  | call name blanks arguments => name ++ blanks ++ "(" ++ arguments ++ ")"

/-- A name or a number is one token, and that of a call is a name. A literal is terminated. What is in parentheses
compiles, without comments. -/
def WellFormed : Primary → Prop
  | atom text => standsAlone .dialect text.toList ∧
      ∃ t, tokenize (normalizeAfter none text.toList) = .ok [t] ∧ ∀ s, t ≠ .sign s
  | literal quote content => (quote = '"' ∨ quote = '\'') ∧ IsContent quote content.toList
  | group body => standsAlone .dialect body.toList ∧ ∃ n, compile body = .ok n
  | call name blanks arguments =>
    (standsAlone .dialect name.toList ∧ ∃ s, tokenize (normalizeAfter none name.toList) = .ok [.name s]) ∧
      (∀ c ∈ blanks.toList, isBlank c) ∧ standsAlone .dialect arguments.toList ∧ ∃ n, compile arguments = .ok n

/-- Names and numbers are made of letters, digits, `_`, `:` and points throughout, and the arguments of a call follow
its name directly. -/
def Plain : Primary → Prop
  | atom text => ∀ c ∈ normalizeAfter none text.toList, isOperandPart c
  | literal .. | group _ => True
  | call name blanks _ => blanks = "" ∧ ∀ c ∈ normalizeAfter none name.toList, isOperandPart c

end Primary

/-- What may follow an operand: nothing, a blank, a separator, the end of a group or a connective. -/
inductive Follows : List Char → Prop where
  | nothing : Follows []
  | divider {c : Char} (h : isBlank c ∨ c ∈ [',', ';', ')']) (rest : List Char) : Follows (c :: rest)
  | connective (op : Connective) {rest : List Char} (h : rest.head?.any isNamePart = false) :
      Follows (op.word.toList ++ rest)

/-- A place for a negated operand. The text in front of it has no comments and ends outside of literals, however its
parentheses are paired, and `not` is a word of its own there. After it the operand ends. -/
structure Position (before : String) (o : Primary) (after : String) : Prop where
  outside : ∃ e d b, read .dialect (outside e false) before.toList = some (.outside d b)
  operator : normalizeAfter none (before ++ "not").toList = normalizeAfter none before.toList ++ ['!']
  follows : Follows after.toList
  apart : ∀ text, o = .atom text → after.toList.head?.any isNamePart = false

/-! ## Rewriting -/

theorem IsContent.closes {cs : List Char} (h : IsContent '"' cs) : Closes (cs ++ ['"']) := by
  induction h with
  | nil => exact .quote
  | escape c _ ih => exact ih.escape c
  | char hq hb _ ih => exact ih.cons hq hb

theorem IsContent.requote {cs : List Char} (h : IsContent '\'' cs) :
    ∃ body, Closes body ∧ ∀ rest, requote (cs ++ '\'' :: rest) = (body, rest) := by
  induction h with
  | nil => exact ⟨['"'], .quote, fun _ => rfl⟩
  | escape c _ ih =>
    obtain ⟨body, hc, hr⟩ := ih
    exact ⟨'\\' :: c :: body, hc.escape c, fun rest => by simp [FraudScreen.Expr.requote, hr]⟩
  | @char c hq hb cs _ ih =>
    obtain ⟨body, hc, hr⟩ := ih
    by_cases hd : c = '"'
    · subst hd
      exact ⟨'\\' :: '"' :: body, hc.escape '"', fun rest => by simp [FraudScreen.Expr.requote, hr]⟩
    · exact ⟨c :: body, hc.cons hd hb, fun rest => by simp [FraudScreen.Expr.requote, hr, hb]⟩

theorem divides_of_follows {c : Char} (h : isBlank c ∨ c ∈ [',', ';', ')']) : Divides c := by
  rcases h with hb | hs
  · exact divides_of_isBlank hb
  · simp only [List.mem_cons, List.not_mem_nil, or_false] at hs
    rcases hs with rfl | rfl | rfl <;> decide

theorem normalizeAfter_divider {m : Char} (hm : Divides m) (last : Option Char) (more : List Char) :
    normalizeAfter last (m :: more) = m :: normalizeAfter (some m) more :=
  normalizeAfter_of_step (normalizeStep_divider hm last more) rfl

theorem normalizeAfter_word (op : Connective) {rest : List Char} (h : rest.head?.any isNamePart = false)
    (last : Option Char) : normalizeAfter last (op.word.toList ++ rest) =
      op.symbol ++ normalizeAfter op.symbol.getLast? rest := by
  obtain ⟨ht, hd⟩ : rest.takeWhile isNamePart = [] ∧ rest.dropWhile isNamePart = rest := by
    cases rest with
    | nil => exact ⟨rfl, rfl⟩
    | cons c rest => simpa using h
  have hp : isNamePart 'n' ∧ isNamePart 'd' ∧ isNamePart 'r' := by decide
  cases op with
  | and =>
    have hs : normalizeStep last 'a' ('n' :: 'd' :: rest) =
        (respell ('a' :: ('n' :: 'd' :: rest).takeWhile isNamePart), ('n' :: 'd' :: rest).dropWhile isNamePart) := rfl
    simp only [List.takeWhile_cons, List.dropWhile_cons, hp, ht, hd, if_true] at hs
    exact normalizeAfter_of_step hs rfl
  | or =>
    have hs : normalizeStep last 'o' ('r' :: rest) =
        (respell ('o' :: ('r' :: rest).takeWhile isNamePart), ('r' :: rest).dropWhile isNamePart) := rfl
    simp only [List.takeWhile_cons, List.dropWhile_cons, hp, ht, hd, if_true] at hs
    exact normalizeAfter_of_step hs rfl

/-- What follows an operand is rewritten by itself, and ends the operand. -/
theorem Follows.normalizeAfter {after : List Char} (h : Follows after) :
    (∀ last, normalizeAfter last after = FraudScreen.Expr.normalizeAfter none after) ∧
      EndsOperand (FraudScreen.Expr.normalizeAfter none after) := by
  cases h with
  | nothing =>
    have hn (last : Option Char) : FraudScreen.Expr.normalizeAfter last [] = [] := by
      rw [FraudScreen.Expr.normalizeAfter]
    refine ⟨fun last => by rw [hn, hn], ?_⟩
    rw [hn, EndsOperand, marksOf]
    intro m hm
    cases hm
  | @divider c h rest =>
    have hn (last : Option Char) : FraudScreen.Expr.normalizeAfter last (c :: rest) =
        c :: FraudScreen.Expr.normalizeAfter (some c) rest := normalizeAfter_divider (divides_of_follows h) last rest
    refine ⟨fun last => by rw [hn, hn], ?_⟩
    rw [hn, EndsOperand, marksOf]
    rintro _ ⟨⟩
    rcases h with hb | hs
    · have hne : c ∉ ['"', '(', ')', '&', '|', ',', ';', '!'] := not_mem_of (by decide) hb
      simp only [List.mem_cons, List.not_mem_nil, or_false, not_or] at hne
      exact .inr ⟨.char c, by simp [nextMark, hne, Mark.loose?], hb⟩
    · simp only [List.mem_cons, List.not_mem_nil, or_false] at hs
      rcases hs with rfl | rfl | rfl
      · exact .inr ⟨.stop ',', rfl, trivial⟩
      · exact .inr ⟨.stop ';', rfl, trivial⟩
      · exact .inl rfl
  | @connective op rest h =>
    have hn (last : Option Char) : FraudScreen.Expr.normalizeAfter last (op.word.toList ++ rest) =
        op.symbol ++ FraudScreen.Expr.normalizeAfter op.symbol.getLast? rest := normalizeAfter_word op h last
    refine ⟨fun last => by rw [hn, hn], ?_⟩
    have hmark : ∃ left, marksOf (op.symbol ++ FraudScreen.Expr.normalizeAfter op.symbol.getLast? rest) =
        .link op :: left := by
      cases op <;> exact ⟨_, marksOf_of_nextMark rfl⟩
    obtain ⟨left, hl⟩ := hmark
    rw [hn, EndsOperand, hl]
    rintro _ ⟨⟩
    exact .inr ⟨.link op, rfl, trivial⟩

namespace Primary

variable {o : Primary}

/-- What compiles has a tree by itself. -/
theorem exists_argument {text : String} {n : Node} (hs : standsAlone .dialect text.toList)
    (hn : compile text = .ok n) : ∃ fs ts, Argument (normalizeAfter none text.toList) fs ts n := by
  obtain ⟨b, hb⟩ := standsAlone_iff.1 hs
  obtain ⟨fs, ts, hf, ht, hn⟩ := exists_tokens_of_compile hn
  exact ⟨fs, ts, standsAlone_iff.2 ⟨b, read_normalizeAfter none hb⟩, hf, ht, hn⟩

theorem normalizeAfter_ne_nil {text : String} {t : Token}
    (ht : tokenize (normalizeAfter none text.toList) = .ok [t]) : normalizeAfter none text.toList ≠ [] := by
  intro hnil
  rw [hnil, tokenize, fragments, readFragments, List.reverse_nil, ok_bind, tokensOf] at ht
  cases ht

/-- Wherever the expression may stand, and whatever may follow, it is rewritten to this text. -/
def RewritesTo (o : Primary) (cs : List Char) : Prop :=
  ∀ (last : Option Char) (after : List Char), spellEquals last = spellEquals none → Follows after →
    (∀ text, o = .atom text → after.head?.any isNamePart = false) →
      normalizeAfter last (o.source.toList ++ after) = cs ++ normalizeAfter none after

theorem atom_rewritesTo {text : String} (hs : standsAlone .dialect text.toList) :
    (atom text).RewritesTo (normalizeAfter none text.toList) := by
  intro last after hlast hf hapart
  obtain ⟨b, hb⟩ := standsAlone_iff.1 hs
  cases hf with
  | nothing =>
    rw [List.append_nil, normalizeAfter_congr hlast, normalizeAfter.eq_1, List.append_nil]
    rfl
  | divider hc rest =>
    have hd := divides_of_follows hc
    rw [source, normalizeAfter_append hd last hb, normalizeAfter_congr hlast, normalizeAfter_divider hd]
  | connective op _ =>
    -- the connective would be part of the name or the number
    cases op with
    | and =>
      have ha : isNamePart 'a' = false := hapart text rfl
      exact absurd ha (by decide)
    | or =>
      have ho : isNamePart 'o' = false := hapart text rfl
      exact absurd ho (by decide)

theorem literal_rewritesTo {content : String} (h : IsContent '"' content.toList) :
    (literal '"' content).RewritesTo ('"' :: (content.toList ++ ['"'])) := by
  intro last after _ hf _
  have hsource : (literal '"' content).source.toList ++ after = '"' :: (content.toList ++ ['"'] ++ after) := by
    simp [source]
  have hstep : normalizeStep last '"' (content.toList ++ ['"'] ++ after) =
      ('"' :: (content.toList ++ ['"']), after) := by
    simp only [normalizeStep, h.closes.span, if_true]
  rw [hsource, normalizeAfter, hstep, hf.normalizeAfter.1]

theorem literal_rewritesTo_requoted {content : String} {body : List Char}
    (h : ∀ rest, requote (content.toList ++ '\'' :: rest) = (body, rest)) :
    (literal '\'' content).RewritesTo ('"' :: body) := by
  intro last after _ hf _
  have hsource : (literal '\'' content).source.toList ++ after = '\'' :: (content.toList ++ '\'' :: after) := by
    simp [source]
  have hstep : normalizeStep last '\'' (content.toList ++ '\'' :: after) = ('"' :: body, after) := by
    simp [normalizeStep, h]
  rw [hsource, normalizeAfter, hstep, hf.normalizeAfter.1]

theorem group_rewritesTo {body : String} (hs : standsAlone .dialect body.toList) :
    (group body).RewritesTo ('(' :: (normalizeAfter none body.toList ++ [')'])) := by
  intro last after _ hf _
  obtain ⟨b, hb⟩ := standsAlone_iff.1 hs
  have hsource : (group body).source.toList ++ after = '(' :: (body.toList ++ ')' :: after) := by simp [source]
  rw [hsource, normalizeAfter_parenthesized last after hb, hf.normalizeAfter.1]
  simp

theorem call_rewritesTo {name arguments : String} (hn : standsAlone .dialect name.toList)
    (hs : standsAlone .dialect arguments.toList) : (call name "" arguments).RewritesTo
      (normalizeAfter none name.toList ++ '(' :: (normalizeAfter none arguments.toList ++ [')'])) := by
  intro last after hlast hf _
  obtain ⟨b, hb⟩ := standsAlone_iff.1 hs
  obtain ⟨b', hb'⟩ := standsAlone_iff.1 hn
  have hsource : (call name "" arguments).source.toList ++ after =
      name.toList ++ '(' :: (arguments.toList ++ ')' :: after) := by simp [source]
  rw [hsource, normalizeAfter_append (by decide) last hb', ← normalizeAfter_opening none,
    normalizeAfter_parenthesized none after hb, normalizeAfter_congr hlast, hf.normalizeAfter.1]
  simp

/-- A plain primary expression is rewritten by itself, to an operand in the evaluator's syntax. -/
theorem exists_primed (hw : o.WellFormed) (hp : o.Plain) : ∃ cs, Primed cs ∧ o.RewritesTo cs := by
  cases o with
  | atom text =>
    obtain ⟨hs, t, ht, hsign⟩ := hw
    exact ⟨_, primed_operandParts (normalizeAfter_ne_nil ht) hp ht hsign, atom_rewritesTo hs⟩
  | literal quote content =>
    obtain ⟨rfl | rfl, hcontent⟩ := hw
    · exact ⟨_, primed_literal hcontent.closes, literal_rewritesTo hcontent⟩
    · obtain ⟨body, hbody, hr⟩ := hcontent.requote
      exact ⟨_, primed_literal hbody, literal_rewritesTo_requoted hr⟩
  | group body =>
    obtain ⟨hs, n, hn⟩ := hw
    obtain ⟨fs, ts, ha⟩ := exists_argument hs hn
    exact ⟨_, ha.primed_group, group_rewritesTo hs⟩
  | call name blanks arguments =>
    obtain ⟨⟨hns, s, ht⟩, -, hs, n, hn⟩ := hw
    obtain ⟨rfl, hp⟩ := hp
    obtain ⟨fs, ts, ha⟩ := exists_argument hs hn
    have hname := isName_operandParts (normalizeAfter_ne_nil ht) hp ht
    exact ⟨_, ha.primed_call hname hp, call_rewritesTo hns hs⟩

end Primary

theorem compile_eq (rule : String) :
    compile rule = tokenize (withTruthinessChars (normalizeAfter none rule.toList)) >>= Node.ofTokens := by
  rw [compile, Node.parse, withTruthiness, normalize, String.toList_ofList, String.toList_ofList]

/-- **`not` takes its whole operand**, if that is plain. -/
theorem compile_not_primary {before after : String} {o : Primary} (hw : o.WellFormed) (hp : o.Plain)
    (ha : Position before o after) :
    SameOutcome (fun n n' => ∀ b, n.eval b = n'.eval b) (compile (before ++ "not " ++ o.source ++ after))
      (compile (before ++ "not (" ++ o.source ++ ")" ++ after)) := by
  obtain ⟨cs, hcs, hown⟩ := o.exists_primed hw hp
  obtain ⟨hfollows, hends⟩ := ha.follows.normalizeAfter
  obtain ⟨operand, htaken⟩ := hcs.taken
  obtain ⟨e, d, b, hread⟩ := ha.outside
  have hnot : read .dialect (outside e false) (before ++ "not").toList = some (outside d false) := by
    have hr : read .dialect (.outside d b) ['n', 'o', 't'] = _ :=
      read_ordinary .dialect d b (by simp) (List.all_eq_true.1 (by decide))
    rw [String.toList_append, read_append, hread]
    exact hr
  -- up to the operand the rules are rewritten alike
  have hfront (rest : List Char) : normalizeAfter none ((before ++ "not").toList ++ ' ' :: rest) =
      normalizeAfter none before.toList ++ '!' :: ' ' :: normalizeAfter (some ' ') rest := by
    rw [normalizeAfter_append (by decide) none hnot, ha.operator]
    simp
  have hbare : normalizeAfter none (before ++ "not " ++ o.source ++ after).toList =
      normalizeAfter none before.toList ++ '!' :: ' ' :: (cs ++ normalizeAfter none after.toList) := by
    have hrule : (before ++ "not " ++ o.source ++ after).toList =
        (before ++ "not").toList ++ ' ' :: (o.source.toList ++ after.toList) := by simp
    rw [hrule, hfront, hown (some ' ') _ rfl ha.follows ha.apart]
  have henclosed : normalizeAfter none (before ++ "not (" ++ o.source ++ ")" ++ after).toList =
      normalizeAfter none before.toList ++ '!' :: ' ' :: '(' :: (cs ++ ')' :: normalizeAfter none after.toList) := by
    have hrule : (before ++ "not (" ++ o.source ++ ")" ++ after).toList =
        (before ++ "not").toList ++ ' ' :: '(' :: (o.source.toList ++ ')' :: after.toList) := by simp
    have hgroup : Follows (')' :: after.toList) := .divider (.inr (by simp)) _
    have hclosing : normalizeAfter none (')' :: after.toList) = ')' :: normalizeAfter none after.toList := by
      rw [normalizeAfter_divider (by decide), hfollows]
    rw [hrule, hfront, normalizeAfter_opening, hown (some '(') _ rfl hgroup fun _ _ => rfl, hclosing]
  rw [compile_eq, compile_eq, hbare, henclosed]
  exact ((htaken.callEnclosed (read_normalizeAfter none hread) hends).parse hcs.reads hcs.readable).mono
    fun hr b => hr.eval_eq b

theorem compile_of_fragments {rule : String} {written : List Char} {fs : List Fragment}
    (hw : withTruthinessChars (normalizeAfter none rule.toList) = written) (hf : fragments written = .ok fs) :
    compile rule = tokensOf fs >>= Node.ofTokens := by
  rw [compile_eq, hw, tokenize, hf]
  rfl

theorem normalizeAfter_isNew : normalizeAfter none "is_new".toList = "is_new".toList := by cbv

theorem isOperandPart_isNew : ∀ c ∈ "is_new".toList, isOperandPart c := List.all_eq_true.1 (by decide)

/-- A call is well-formed whatever blanks it has in front of its argument. -/
theorem wellFormed_isNew {blanks : String} (h : ∀ c ∈ blanks.toList, isBlank c) :
    (Primary.call "is_new" blanks "true").WellFormed := by
  have htok : tokenize (normalizeAfter none "is_new".toList) = .ok [.name "is_new"] := by
    rw [normalizeAfter_isNew, tokenize, fragments_operandParts (by decide) isOperandPart_isNew]
    cbv
  exact ⟨⟨by decide, "is_new", htok⟩, h, by decide, _, compile_bool true⟩

/-- A call between connectives. -/
theorem compile_not_primary_call :
    (Primary.call "is_new" "" "true").WellFormed ∧ (Primary.call "is_new" "" "true").Plain ∧
      Position "a or " (.call "is_new" "" "true") " and b" ∧
      SameOutcome (fun n n' => ∀ b, n.eval b = n'.eval b) (compile "a or not is_new(true) and b")
        (compile "a or not (is_new(true)) and b") := by
  have hw : (Primary.call "is_new" "" "true").WellFormed := wellFormed_isNew fun _ h => absurd h List.not_mem_nil
  have hp : (Primary.call "is_new" "" "true").Plain := ⟨rfl, normalizeAfter_isNew.symm ▸ isOperandPart_isNew⟩
  have ha : Position "a or " (.call "is_new" "" "true") " and b" :=
    ⟨⟨0, 0, false, by decide⟩, by cbv, .divider (.inl (by decide)) _, fun _ h => by cases h⟩
  have hbare : "a or " ++ "not " ++ (Primary.call "is_new" "" "true").source ++ " and b" =
      "a or not is_new(true) and b" := by decide
  have henclosed : "a or " ++ "not (" ++ (Primary.call "is_new" "" "true").source ++ ")" ++ " and b" =
      "a or not (is_new(true)) and b" := by decide
  have hsame := compile_not_primary hw hp ha
  rw [hbare, henclosed] at hsame
  exact ⟨hw, hp, ha, hsame⟩

/-! ## Operands that are cut -/

theorem tokensOf_signedExponent : ∃ x, ∀ more, tokensOf (.word ['1', 'e'] :: .mark '-' :: .word ['5'] :: more) =
    (tokensOf more).map (.const (.float x) :: ·) := by
  obtain ⟨x, hx⟩ : ∃ x, Decimal.readMagnitude? ['1', 'e', '-', '5'] = some x := ⟨_, rfl⟩
  have hc : readConstant? ['1', 'e'] = none := by cbv
  refine ⟨x, fun more => ?_⟩
  have hs : readSplitNumber? ['1', 'e'] (.mark '-' :: .word ['5'] :: more) = some (x, more) := by
    simp [readSplitNumber?, hx]
  rw [tokensOf_word, classifyWord, hc, hs]

/-- The number is cut at the sign of its exponent, and what is left of it is an unknown name. -/
theorem compile_not_signedExponent :
    (∃ n, compile "not 1e-5" = .ok n ∧ n.eval [] = fail (.unboundVariable "1e")) ∧
      ∃ n v, compile "not (1e-5)" = .ok n ∧ n.eval [] = .ok v := by
  refine ⟨?_, ?_⟩
  · have hw : withTruthinessChars (normalizeAfter none "not 1e-5".toList) = "!truthy(1e)-5".toList := by cbv
    have hf : fragments "!truthy(1e)-5".toList = .ok [.mark '!', .word truthyName.toList, .mark '(',
        .word ['1', 'e'], .mark ')', .mark '-', .word ['5']] := by
      simp [fragments, readFragments, isMark, isBlank, extendWord, truthyName]
    have ht : tokensOf [.mark '!', .word truthyName.toList, .mark '(', .word ['1', 'e'], .mark ')', .mark '-',
        .word ['5']] = .ok [.sign .not, .name truthyName, .sign .opening, .name "1e", .sign .closing, .sign .minus,
          .const (.int 5)] := by cbv
    rw [compile_of_fragments hw hf, ht]
    exact ⟨_, rfl, rfl⟩
  · obtain ⟨x, hx⟩ := tokensOf_signedExponent
    have hw : withTruthinessChars (normalizeAfter none "not (1e-5)".toList) = "!truthy((1e-5))".toList := by cbv
    have hf : fragments "!truthy((1e-5))".toList = .ok [.mark '!', .word truthyName.toList, .mark '(', .mark '(',
        .word ['1', 'e'], .mark '-', .word ['5'], .mark ')', .mark ')'] := by
      simp [fragments, readFragments, isMark, isBlank, extendWord, truthyName]
    have hn : classifyWord truthyName.toList (.mark '(' :: .mark '(' :: .word ['1', 'e'] :: .mark '-' ::
        .word ['5'] :: [.mark ')', .mark ')']) = _ := isName_truthy.classifyWord (by decide) _
    rw [compile_of_fragments hw hf, tokensOf_mark _ rfl, tokensOf_word, hn, tokensOf_mark _ rfl, tokensOf_mark _ rfl,
      hx, tokensOf_closing, tokensOf_closing, tokensOf]
    exact ⟨_, _, rfl, rfl⟩

/-- The call is cut at the blank after its name, and two operands are left side by side. -/
theorem compile_not_blankCall :
    (∃ e, compile "not is_new (true)" = .error e) ∧ ∃ n, compile "not (is_new (true))" = .ok n := by
  refine ⟨?_, ?_⟩
  · have hw : withTruthinessChars (normalizeAfter none "not is_new (true)".toList) =
        "!truthy(is_new) (true)".toList := by cbv
    have hf : fragments "!truthy(is_new) (true)".toList = .ok [.mark '!', .word truthyName.toList, .mark '(',
        .word "is_new".toList, .mark ')', .blank, .mark '(', .word "true".toList, .mark ')'] := by
      simp [fragments, readFragments, isMark, isBlank, extendWord, truthyName]
    rw [compile_of_fragments hw hf]
    exact ⟨_, by cbv⟩
  · have hw : withTruthinessChars (normalizeAfter none "not (is_new (true))".toList) =
        "!truthy((is_new (true)))".toList := by cbv
    have hf : fragments "!truthy((is_new (true)))".toList = .ok [.mark '!', .word truthyName.toList, .mark '(',
        .mark '(', .word "is_new".toList, .blank, .mark '(', .word "true".toList, .mark ')', .mark ')',
        .mark ')'] := by
      simp [fragments, readFragments, isMark, isBlank, extendWord, truthyName]
    rw [compile_of_fragments hw hf]
    exact ⟨_, by cbv⟩

/-- Parentheses that leave another one open take the connective behind them into themselves. -/
theorem compile_not_openGroup :
    (∃ n, compile "true; (true, true;" = .ok n) ∧ (∃ e, compile "not (true; (true, true;) and true" = .error e) ∧
      ∃ n, compile "not ((true; (true, true;)) and true" = .ok n := by
  refine ⟨?_, ?_, ?_⟩
  · have hw : withTruthinessChars (normalizeAfter none "true; (true, true;".toList) =
        "true; (true, true;".toList := by cbv
    have hf : fragments "true; (true, true;".toList = .ok [.word "true".toList, .mark ';', .blank, .mark '(',
        .word "true".toList, .mark ',', .blank, .word "true".toList, .mark ';'] := by
      simp [fragments, readFragments, isMark, isBlank, extendWord]
    rw [compile_of_fragments hw hf]
    exact ⟨_, by cbv⟩
  · have hw : withTruthinessChars (normalizeAfter none "not (true; (true, true;) and true".toList) =
        "!truthy((true; truthy((true, true;)) && truthy(true))".toList := by cbv
    have hf : fragments "!truthy((true; truthy((true, true;)) && truthy(true))".toList = .ok [.mark '!',
        .word truthyName.toList, .mark '(', .mark '(', .word "true".toList, .mark ';', .blank,
        .word truthyName.toList, .mark '(', .mark '(', .word "true".toList, .mark ',', .blank, .word "true".toList,
        .mark ';', .mark ')', .mark ')', .blank, .mark '&', .mark '&', .blank, .word truthyName.toList, .mark '(',
        .word "true".toList, .mark ')', .mark ')'] := by
      simp [fragments, readFragments, isMark, isBlank, extendWord, truthyName]
    rw [compile_of_fragments hw hf]
    exact ⟨_, by cbv⟩
  · have hw : withTruthinessChars (normalizeAfter none "not ((true; (true, true;)) and true".toList) =
        "!truthy((truthy((true; (true, true;))) && truthy(true))".toList := by cbv
    have hf : fragments "!truthy((truthy((true; (true, true;))) && truthy(true))".toList = .ok [.mark '!',
        .word truthyName.toList, .mark '(', .mark '(', .word truthyName.toList, .mark '(', .mark '(',
        .word "true".toList, .mark ';', .blank, .mark '(', .word "true".toList, .mark ',', .blank,
        .word "true".toList, .mark ';', .mark ')', .mark ')', .mark ')', .blank, .mark '&', .mark '&', .blank,
        .word truthyName.toList, .mark '(', .word "true".toList, .mark ')', .mark ')'] := by
      simp [fragments, readFragments, isMark, isBlank, extendWord, truthyName]
    rw [compile_of_fragments hw hf]
    exact ⟨_, by cbv⟩

/-- A `not` within a comment in front is rewritten, too, and the end of the line is lost. So the comment goes on to
the end of the line in the operand, and of what is left the parentheses are paired or not. -/
theorem compile_not_afterComment :
    (∃ n, compile "((true // not\n)) and not (true\n)" = .ok n) ∧
      ∃ e, compile "((true // not\n)) and not ((true\n))" = .error e := by
  refine ⟨?_, ?_⟩
  · have hw : withTruthinessChars (normalizeAfter none "((true // not\n)) and not (true\n)".toList) =
        "truthy(((true // !truthy()))) && truthy(!truthy((true\n)))".toList := by cbv
    have hf : fragments "truthy(((true // !truthy()))) && truthy(!truthy((true\n)))".toList = .ok
        [.word truthyName.toList, .mark '(', .mark '(', .mark '(', .word "true".toList, .blank, .mark ')', .mark ')',
          .mark ')'] := by
      simp [fragments, readFragments, isMark, isBlank, extendWord, truthyName, skipLine]
    rw [compile_of_fragments hw hf]
    exact ⟨_, by cbv⟩
  · have hw : withTruthinessChars (normalizeAfter none "((true // not\n)) and not ((true\n))".toList) =
        "truthy(((true // !truthy()))) && truthy(!truthy(((true\n))))".toList := by cbv
    have hf : fragments "truthy(((true // !truthy()))) && truthy(!truthy(((true\n))))".toList = .ok
        [.word truthyName.toList, .mark '(', .mark '(', .mark '(', .word "true".toList, .blank, .mark ')', .mark ')',
          .mark ')', .mark ')'] := by
      simp [fragments, readFragments, isMark, isBlank, extendWord, truthyName, skipLine]
    rw [compile_of_fragments hw hf]
    exact ⟨_, by cbv⟩

/-- **`not` does not always take its whole operand.** A number with a signed exponent and a call with a blank in front
of its arguments are cut. A group that leaves a parenthesis open, and any group after a comment with a `not`, need not
mean the same with and without parentheses either. -/
theorem not_primary_cut :
    ((Primary.atom "1e-5").WellFormed ∧ Position "" (.atom "1e-5") "" ∧
      (∃ n, compile "not 1e-5" = .ok n ∧ n.eval [] = fail (.unboundVariable "1e")) ∧
      ∃ n v, compile "not (1e-5)" = .ok n ∧ n.eval [] = .ok v) ∧
    ((Primary.call "is_new" " " "true").WellFormed ∧ Position "" (.call "is_new" " " "true") "" ∧
      (∃ e, compile "not is_new (true)" = .error e) ∧ ∃ n, compile "not (is_new (true))" = .ok n) ∧
    ((∃ n, compile "true; (true, true;" = .ok n) ∧ (∃ e, compile "not (true; (true, true;) and true" = .error e) ∧
      ∃ n, compile "not ((true; (true, true;)) and true" = .ok n) ∧
    (∃ n, compile "((true // not\n)) and not (true\n)" = .ok n) ∧
      ∃ e, compile "((true // not\n)) and not ((true\n))" = .error e := by
  have hposition (o : Primary) : Position "" o "" := ⟨⟨0, 0, false, rfl⟩, by cbv, .nothing, fun _ _ => rfl⟩
  have hnumber : (Primary.atom "1e-5").WellFormed := by
    obtain ⟨x, hx⟩ := tokensOf_signedExponent
    have hn : normalizeAfter none "1e-5".toList = "1e-5".toList := by cbv
    have hf : fragments "1e-5".toList = .ok [.word ['1', 'e'], .mark '-', .word ['5']] := by
      simp [fragments, readFragments, isMark, isBlank, extendWord]
    refine ⟨by decide, .const (.float x), ?_, fun s h => by cases h⟩
    rw [hn, tokenize, hf, ok_bind, hx, tokensOf]
    rfl
  have hcall : (Primary.call "is_new" " " "true").WellFormed := wellFormed_isNew (List.all_eq_true.1 (by decide))
  exact ⟨⟨hnumber, hposition _, compile_not_signedExponent⟩, ⟨hcall, hposition _, compile_not_blankCall⟩,
    compile_not_openGroup, compile_not_afterComment⟩

end FraudScreen.Expr
