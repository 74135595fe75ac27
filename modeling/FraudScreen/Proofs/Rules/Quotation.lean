import FraudScreen.Proofs.Rules.Equality

/-!
# Texts in quotes

A rule writes a text between double or between single quotes, with a backslash before each backslash and each
quote of that kind. In double quotes every text means itself. In single quotes the backslash before a quote is
kept when the literal is put in double quotes, and the evaluator does not know that escape: a text with a single
quote has no single-quoted literal (`Context.eval_equated_quoted`).
-/
namespace FraudScreen

namespace Expr

open Reader

/-- The kinds of quotes. -/
inductive Quotes where
  | double | single
deriving DecidableEq, Repr

def Quotes.mark : Quotes → Char
  | double => '"'
  | single => '\''

/-- The text with a backslash before each character that `p` accepts. -/
def escaped (p : Char → Bool) (cs : List Char) : List Char :=
  cs.flatMap fun c => if p c then ['\\', c] else [c]

/-- A backslash or the quote itself. -/
def Quotes.escapes (q : Quotes) (c : Char) : Bool := c == '\\' || c == q.mark

/-- The text as a literal. -/
def Quotes.write (q : Quotes) (s : String) : String :=
  String.ofList (q.mark :: (escaped q.escapes s.toList ++ [q.mark]))

/-! ## Escapes -/

section

variable {p : Char → Bool}

theorem escaped_cons (c : Char) (cs : List Char) :
    escaped p (c :: cs) = (if p c then ['\\', c] else [c]) ++ escaped p cs := List.flatMap_cons

theorem escaped_congr {p' : Char → Bool} {cs : List Char} (h : ∀ c ∈ cs, p c = p' c) :
    escaped p cs = escaped p' cs :=
  List.flatMap_congr fun c hc => by rw [h c hc]

/-- With backslashes and double quotes escaped, the closing quote is the first that ends a literal. -/
theorem closes_escaped (hb : p '\\') (hq : p '"') : ∀ cs : List Char, Closes (escaped p cs ++ ['"'])
  | [] => .quote
  | c :: cs => by
    rw [escaped_cons]
    cases hc : p c with
    | true => exact (closes_escaped hb hq cs).escape c
    | false =>
      have hne : ∀ a, p a → c ≠ a := fun a ha e => by simp [← e, hc] at ha
      exact (closes_escaped hb hq cs).cons (hne _ hq) (hne _ hb)

end

/-- The characters that are escaped in a single-quoted literal once it is in double quotes. -/
def escapesRequoted (c : Char) : Bool := Quotes.single.escapes c || c == '"'

/-- Requoting escapes the double quotes too. -/
theorem requote_escaped (cs : List Char) :
    requote (escaped Quotes.single.escapes cs ++ ['\'']) = (escaped escapesRequoted cs ++ ['"'], []) := by
  induction cs with
  | nil => rfl
  | cons c cs ih =>
    rw [escaped_cons, escaped_cons]
    by_cases hb : c = '\\'
    · subst hb
      simp [Quotes.escapes, escapesRequoted, requote, ih]
    by_cases hs : c = '\''
    · subst hs
      simp [Quotes.escapes, Quotes.mark, escapesRequoted, requote, ih]
    by_cases hd : c = '"'
    · subst hd
      simp [Quotes.escapes, Quotes.mark, escapesRequoted, requote, ih]
    · simp [Quotes.escapes, Quotes.mark, escapesRequoted, requote, ih, hb, hs, hd]

/-- A text with its backslashes and double quotes escaped is read back. -/
theorem readText_escaped (cs more : List Char) :
    readText (escaped Quotes.double.escapes cs ++ '"' :: more) = .ok (cs, more) := by
  induction cs with
  | nil => rfl
  | cons c cs ih =>
    rw [escaped_cons]
    by_cases hb : c = '\\'
    · subst hb
      simp [Quotes.escapes, readText, ih, bind, Except.bind, pure, Except.pure]
    by_cases hd : c = '"'
    · subst hd
      simp [Quotes.escapes, Quotes.mark, readText, ih, bind, Except.bind, pure, Except.pure]
    · simp [Quotes.escapes, Quotes.mark, readText, ih, hb, hd, bind, Except.bind, pure, Except.pure]

/-- Reading stops at the first single quote, which may not follow a backslash. -/
theorem readText_requoted {cs : List Char} (h : '\'' ∈ cs) (more : List Char) :
    readText (escaped escapesRequoted cs ++ '"' :: more) = .error (.illegalEscape (some '\'')) := by
  induction cs with
  | nil => cases h
  | cons c cs ih =>
    rw [escaped_cons]
    by_cases hs : c = '\''
    · subst hs
      rfl
    have ih := ih ((List.mem_cons.1 h).resolve_left (Ne.symm hs))
    by_cases hb : c = '\\'
    · subst hb
      simp [Quotes.escapes, escapesRequoted, readText, ih, bind, Except.bind]
    by_cases hd : c = '"'
    · subst hd
      simp [escapesRequoted, readText, ih, bind, Except.bind]
    · simp [Quotes.escapes, Quotes.mark, escapesRequoted, readText, ih, hs, hb, hd, bind, Except.bind]

/-- Without single quotes both kinds of literals are the same once they are in double quotes. -/
theorem escaped_requoted {cs : List Char} (h : '\'' ∉ cs) :
    escaped escapesRequoted cs = escaped Quotes.double.escapes cs := by
  refine escaped_congr fun c hc => ?_
  have hs : c ≠ '\'' := fun e => h (e ▸ hc)
  simp only [escapesRequoted, Quotes.escapes, Quotes.mark, beq_eq_false_iff_ne.2 hs, Bool.or_false]

/-! ## Literals -/

/-- The literal of a text in the evaluator's syntax. -/
def Quotes.normal (q : Quotes) (s : String) : List Char :=
  match q with
  | double => escaped Quotes.double.escapes s.toList ++ ['"']
  | single => escaped escapesRequoted s.toList ++ ['"']

theorem Quotes.closes_normal (q : Quotes) (s : String) : Closes (q.normal s) := by
  cases q with
  | double => exact closes_escaped rfl rfl s.toList
  | single => exact closes_escaped rfl rfl s.toList

theorem Quotes.normalizeAfter_write (q : Quotes) (s : String) :
    normalizeAfter none (q.write s).toList = '"' :: q.normal s := by
  rw [write, String.toList_ofList, normalizeAfter]
  cases q with
  | double =>
    have hs : spanText (double.normal s) = (double.normal s, []) := by
      simpa using (double.closes_normal s).span []
    have h : normalizeStep none double.mark (escaped double.escapes s.toList ++ [double.mark]) =
        ('"' :: double.normal s, []) := congrArg (fun r => ('"' :: r.1, r.2)) hs
    rw [h, normalizeAfter, List.append_nil]
  | single =>
    have h : normalizeStep none single.mark (escaped single.escapes s.toList ++ [single.mark]) =
        ('"' :: single.normal s, []) := congrArg (fun r => ('"' :: r.1, r.2)) (requote_escaped s.toList)
    rw [h, normalizeAfter, List.append_nil]

/-- A literal is an expression of one part, which is left as it is. -/
theorem withTruthinessChars_text {body : List Char} (h : Closes body) :
    withTruthinessChars ('"' :: body) = '"' :: body := by
  have hs : spanText body = (body, []) := by simpa using h.span []
  have hm : nextMark '"' body = (.text ('"' :: body), []) := by simp [nextMark, hs]
  have ho : outline ('"' :: body) = [.text ('"' :: body)] := by
    rw [outline, marksOf, hm, marksOf, nest, nest]
    rfl
  rw [withTruthinessChars, ho]
  rfl

/-- The evaluator reads the literal after both rewriting steps. -/
theorem compile_write (q : Quotes) (s : String) :
    compile (q.write s) = (do Node.ofTokens (← tokenize ('"' :: q.normal s))) := by
  rw [compile, Node.parse, withTruthiness, normalize, String.toList_ofList, String.toList_ofList,
    q.normalizeAfter_write s, withTruthinessChars_text (q.closes_normal s)]

/-- The tree of a text. -/
def textNode (s : String) : Node := .mk .group [.leaf (.const (.text s))]

theorem eval_textNode (s : String) (b : Bindings) : (textNode s).eval b = .ok (.text s) := rfl

theorem compile_double (s : String) : compile (Quotes.double.write s) = .ok (textNode s) := by
  have hf : fragments ('"' :: Quotes.double.normal s) = .ok [.text s] := by
    rw [fragments, Quotes.normal, readFragments_text (readText_escaped s.toList []), String.ofList_toList,
      readFragments]
    rfl
  rw [compile_write, tokenize, hf, ok_bind, tokensOf, tokensOf]
  rfl

theorem compile_single {s : String} (h : '\'' ∉ s.toList) :
    compile (Quotes.single.write s) = .ok (textNode s) := by
  have hn : Quotes.single.normal s = Quotes.double.normal s :=
    congrArg (· ++ ['"']) (escaped_requoted h)
  rw [compile_write, hn, ← compile_write, compile_double]

/-- A text with a single quote cannot be written in single quotes. -/
theorem compile_single_of_mem {s : String} (h : '\'' ∈ s.toList) :
    compile (Quotes.single.write s) = .error (.illegalEscape (some '\'')) := by
  have hf : fragments ('"' :: Quotes.single.normal s) = .error (.illegalEscape (some '\'')) := by
    rw [fragments, Quotes.normal, readFragments, if_pos rfl]
    split
    · rename_i e he
      rw [readText_requoted h] at he
      cases he
      rfl
    · rename_i he
      rw [readText_requoted h] at he
      cases he
  rw [compile_write, tokenize, hf]
  rfl

/-- The text can be written in these quotes. -/
def Quotes.fits (q : Quotes) (s : String) : Bool := q == .double || !s.toList.contains '\''

theorem compile_quotes (q : Quotes) (s : String) : compile (q.write s) =
    if q.fits s then .ok (textNode s) else .error (.illegalEscape (some '\'')) := by
  cases q with
  | double => exact compile_double s
  | single =>
    by_cases h : '\'' ∈ s.toList
    · rw [compile_single_of_mem h, if_neg (by simpa [Quotes.fits] using h)]
    · rw [compile_single h, if_pos (by simpa [Quotes.fits] using h)]

theorem compile_of_fits {q : Quotes} {s : String} (h : q.fits s) : compile (q.write s) = .ok (textNode s) := by
  rw [compile_quotes, if_pos h]

theorem read_escaped (q : Quotes) (d : Nat) (cs : List Char) :
    read .dialect (inside d q.mark) (escaped q.escapes cs ++ [q.mark]) = some (outside d false) := by
  induction cs with
  | nil => cases q <;> simp [escaped, read_cons, step, Quotes.mark]
  | cons c cs ih =>
    rw [escaped_cons]
    cases hc : q.escapes c with
    | true => exact ih
    | false =>
      have hne : c ≠ '\\' ∧ c ≠ q.mark := by simpa [Quotes.escapes] using hc
      refine (read_cons _ _ c _).trans ?_
      rw [step_inside .dialect d hne.1 hne.2]
      exact ih

theorem standsAlone_write (q : Quotes) (s : String) : standsAlone .dialect (q.write s).toList := by
  refine standsAlone_iff.2 ⟨false, ?_⟩
  have hq : step .dialect (outside 0 false) q.mark = some (inside 0 q.mark) := by cases q <;> rfl
  rw [Quotes.write, String.toList_ofList, read_cons, hq, Option.bind_some, read_escaped]

/-! ## Variables -/

/-- The name of the variable that a tree reads, if it does nothing else. -/
def Node.readName : Node → Option String
  | .mk .group [.mk (.read name) []] => some name
  | _ => none

theorem Node.eval_readName {n : Node} {name : String} (h : n.readName = some name) (b : Bindings) {v : Value}
    (hv : b.lookup name = some v) : n.eval b = .ok v := by
  unfold readName at h
  split at h
  · cases h
    rw [eval_group, Node.eval]
    simp [evalAll, Op.apply, hv, ok_bind]
  · cases h

/-- A text equals another if it is the same text. -/
theorem eval_equationTree_text (w : Equation) {n m : Node} {b : Bindings} {u s : String}
    (hn : n.eval b = .ok (.text u)) (hm : m.eval b = .ok (.text s)) :
    (equationTree w n m).eval b = .ok (.bool (w.holds (decide (u = s)))) := by
  rw [eval_equationTree, hn, ok_bind, hm, ok_bind]
  rfl

end Expr

namespace Rules

open FraudScreen.Expr

namespace Context

/-- The names of the text variables of a context. -/
def textNames : List String := (signature.filter (·.2 = .text)).map (·.1)

/-- Text variables are expressions by themselves. -/
theorem compile_textName : ∀ name ∈ textNames,
    standsAlone .dialect name.toList ∧ (compile name).toOption.any (·.readName = some name) := by
  decide +kernel

/-- **A text literal means its text**, in every kind of quotes but single quotes around a text with a single quote,
where it is no expression. Equations with a literal compare texts: between two literals, and between a variable
and a literal. -/
theorem eval_equated_quoted (s : String) :
    (∀ q : Quotes, compile (q.write s) =
      if q.fits s then .ok (textNode s) else .error (.illegalEscape (some '\''))) ∧
    (∀ b, (textNode s).eval b = .ok (.text s)) ∧
    ∀ q : Quotes, q.fits s → ∀ w : Equation, ∀ word ∈ w.words,
      (∀ (q' : Quotes) (u : String), q'.fits u → ∃ t, compile (equated (q'.write u) word (q.write s)) = .ok t ∧
        ∀ b, t.eval b = .ok (.bool (w.holds (decide (u = s))))) ∧
      ∀ name ∈ textNames, ∃ t, compile (equated name word (q.write s)) = .ok t ∧
        ∀ (b : Bindings) (u : String), b.lookup name = some (.text u) →
          t.eval b = .ok (.bool (w.holds (decide (u = s)))) := by
  refine ⟨fun q => compile_quotes q s, eval_textNode s, fun q hq w word hw =>
    ⟨fun q' u hq' => ?_, fun name hname => ?_⟩⟩
  · exact ⟨_, compile_equated w hw (standsAlone_write q' u) (compile_of_fits hq') (standsAlone_write q s)
      (compile_of_fits hq), fun b => eval_equationTree_text w (eval_textNode u b) (eval_textNode s b)⟩
  · obtain ⟨halone, hread⟩ := compile_textName name hname
    obtain ⟨n, hn, hread⟩ := exists_ok_of_any hread
    exact ⟨_, compile_equated w hw halone hn (standsAlone_write q s) (compile_of_fits hq),
      fun b u hb => eval_equationTree_text w (n.eval_readName (of_decide_eq_true hread) b hb) (eval_textNode s b)⟩

/-- Neither the keywords nor the parentheses nor the other quotes in the literal are read. -/
theorem eval_equated_quoted_keywords :
    let s := "not \"5\" (and \\ or"
    Quotes.single.fits s ∧ Quotes.double.fits s ∧ "=" ∈ Equation.eq.words ∧ "merchant_id" ∈ textNames ∧
      Quotes.single.write s = "'not \"5\" (and \\\\ or'" ∧
      (∃ t, compile (equated (Quotes.double.write s) "=" (Quotes.single.write s)) = .ok t ∧
        t.eval [] = .ok (.bool true)) ∧
      ∃ t, compile (equated "merchant_id" "=" (Quotes.single.write s)) = .ok t ∧
        let b := [("merchant_id", Value.text s)]
        b.lookup "merchant_id" = some (.text s) ∧ t.eval b = .ok (.bool true) := by
  intro s
  have hs : Quotes.single.fits s := by decide
  have hd : Quotes.double.fits s := rfl
  have hw : "=" ∈ Equation.eq.words := by decide
  have hn : "merchant_id" ∈ textNames := by decide
  have hl : List.lookup "merchant_id" [("merchant_id", Value.text s)] = some (.text s) := rfl
  obtain ⟨hliterals, hvariables⟩ := (eval_equated_quoted s).2.2 .single hs .eq "=" hw
  obtain ⟨t, ht, he⟩ := hliterals .double s hd
  obtain ⟨t', ht', he'⟩ := hvariables "merchant_id" hn
  exact ⟨hs, hd, hw, hn, by decide, ⟨t, ht, by simpa [Equation.holds] using he []⟩, t', ht', hl,
    by simpa [Equation.holds] using he' _ s hl⟩

/-- In single quotes a text with a single quote is no expression, though in double quotes it is. -/
theorem compile_single_apostrophe :
    Quotes.single.write "it's" = "'it\\'s'" ∧ compile "'it\\'s'" = .error (.illegalEscape (some '\'')) ∧
      Quotes.double.write "it's" = "\"it's\"" ∧ compile "\"it's\"" = .ok (textNode "it's") := by
  have hs : Quotes.single.write "it's" = "'it\\'s'" := by decide
  have hd : Quotes.double.write "it's" = "\"it's\"" := by decide
  exact ⟨hs, hs ▸ compile_single_of_mem (by decide), hd, hd ▸ compile_double "it's"⟩

end Context

end Rules

end FraudScreen
