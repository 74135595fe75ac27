import Mathlib
import FraudScreen.Proofs.Expr.NegatedCall

/-!
# Operands in the evaluator's syntax

Names and numbers, literals, expressions in parentheses and calls. A negation takes each of them whole as its operand,
and by itself each has a tree, unless the evaluator refuses a literal: `Primed`. Names, also those of calls, and
numbers are so if they are made of operand parts.
-/
namespace FraudScreen.Expr

open Text Reader

/-! ## Operand parts -/

/-- What a negation needs of its operand: it is taken whole, it is read apart from what surrounds it, and by itself it
has a tree. -/
structure Primed (cs : List Char) : Prop where
  taken : ∃ operand, Taken cs operand
  reads : Reads false (withTruthinessChars cs) false
  readable : Readable (withTruthinessChars cs)

theorem not_mem_of {p : Char → Bool} {cs : List Char} (h : cs.any p = false) {c : Char} (hc : p c) : c ∉ cs :=
  fun hm => List.any_eq_false.1 h c hm hc

theorem isOrdinary_of_isOperandPart {c : Char} (h : isOperandPart c) : isOrdinary c := isOrdinary_of (by decide) h

theorem not_isBlank_of_isOperandPart {c : Char} (h : isOperandPart c) : isBlank c = false := by
  refine Bool.eq_false_iff.2 fun hb => ?_
  obtain ⟨hn, -, hp⟩ := divides_of_isBlank hb
  have hpoint : c ≠ '.' := fun he => hp (by simp [he])
  simp [isOperandPart, hn, hpoint] at h

theorem isWordPart_of_isOperandPart {c : Char} (h : isOperandPart c) : isWordPart c := by
  have hm : c ∉ "+-*/%^(),;=!><&|".toList := not_mem_of (by decide) h
  have hm : isMark c = false := by rwa [isMark, ← Bool.not_eq_true, List.contains_iff_mem]
  have hq : c ∉ ['"'] := not_mem_of (by decide) h
  simpa [isWordPart, hm, not_isBlank_of_isOperandPart h] using hq

theorem marksOf_operandParts {cs : List Char} (h : ∀ c ∈ cs, isOperandPart c) (more : List Char) :
    marksOf (cs ++ more) = cs.map .char ++ marksOf more := by
  induction cs with
  | nil => rfl
  | cons c cs ih =>
    obtain ⟨hc, hcs⟩ := List.forall_mem_cons.1 h
    have hne : c ∉ ['"', '(', ')', '&', '|', ',', ';', '!'] := not_mem_of (by decide) hc
    simp only [List.mem_cons, List.not_mem_nil, or_false, not_or] at hne
    have hn : nextMark c (cs ++ more) = (.char c, cs ++ more) := by simp [nextMark, hne]
    rw [List.cons_append, marksOf_of_nextMark hn, ih hcs]
    rfl

theorem paired_chars {cs : List Char} (h : ∀ c ∈ cs, isOperandPart c) {ms : List Mark} {ls : List Loose}
    (hp : Paired ms ls) : Paired (cs.map .char ++ ms) ((cs.map Part.char).map some ++ ls) := by
  induction cs with
  | nil => exact hp
  | cons c cs ih =>
    obtain ⟨hc, hcs⟩ := List.forall_mem_cons.1 h
    exact .mark (m := .char c) rfl (not_mem_of (by decide) hc) (ih hcs)

theorem spanChars_operandParts {cs : List Char} (h : ∀ c ∈ cs, isOperandPart c) (rest : List Part) :
    spanChars isOperandPart (cs.map .char ++ rest) =
      (cs ++ (spanChars isOperandPart rest).1, (spanChars isOperandPart rest).2) := by
  induction cs with
  | nil => rfl
  | cons c cs ih =>
    obtain ⟨hc, hcs⟩ := List.forall_mem_cons.1 h
    simp [spanChars, Part.charOf?, hc, ih hcs]

theorem joinPieces_chars (cs : List Char) : ∀ (current : List Char) (rest : List Part),
    joinPieces ⟨[], current⟩ (renderParts (cs.map .char ++ rest)) =
      joinPieces ⟨[], current ++ cs⟩ (renderParts rest) := by
  induction cs with
  | nil => simp
  | cons c cs ih =>
    intro current rest
    rw [List.map_cons, List.cons_append, renderParts, Part.render, joinPieces, ih]
    simp

/-! ## Names and numbers -/

section

variable {cs : List Char} (hne : cs ≠ []) (h : ∀ c ∈ cs, isOperandPart c)

include hne h

theorem spanChars_blank_operandParts (rest : List Part) :
    spanChars isBlank (cs.map .char ++ rest) = ([], cs.map .char ++ rest) := by
  match cs, hne with
  | c :: cs, _ => simp [spanChars, Part.charOf?, not_isBlank_of_isOperandPart (h c (List.mem_cons_self ..))]

theorem takeOperand_operandParts (rest : List Part) :
    takeOperand (cs.map .char ++ rest) = takeBare (cs.map .char ++ rest) := by
  match cs, hne with
  | c :: cs, _ =>
    have hc : c ∉ ['-'] := not_mem_of (by decide) (h c (List.mem_cons_self ..))
    simp only [List.mem_singleton] at hc
    simp [takeOperand, hc]

theorem taken_operandParts : Taken cs (cs.map .char) where
  marks := by
    have hp := paired_chars h .nil
    rw [List.append_nil, List.append_nil] at hp
    exact ⟨_, hp, marksOf_operandParts h⟩
  solid := spanChars_blank_operandParts hne h
  taken {rest} hr := by
    have hspan : spanChars isOperandPart rest = ([], rest) := by
      cases rest with
      | nil => rfl
      | cons p rest =>
        have hp : p.Ends := hr p rfl
        cases p with
        | char c =>
          have hc : isOperandPart c = false := by
            by_contra hc
            have hb : isBlank c := hp
            rw [not_isBlank_of_isOperandPart (by simpa using hc)] at hb
            cases hb
          simp [spanChars, Part.charOf?, hc]
        | link | stop => rfl
        | text | group | not => exact hp.elim
    rw [takeOperand_operandParts hne h, takeBare, spanChars_operandParts h, hspan, List.append_nil]
    cases rest with
    | nil => simp
    | cons p rest =>
      have hp : p.Ends := hr p rfl
      cases p with
      | char | link | stop => simp
      | text | group | not => exact hp.elim

theorem withTruthiness_operandParts : withTruthinessChars cs = cs := by
  have hj := joinPieces_chars cs [] []
  rw [List.append_nil] at hj
  rw [(taken_operandParts hne h).withTruthiness_eq, Clause.empty, hj]
  rfl

theorem fragments_operandParts : fragments cs = .ok [.word cs] := by
  have hd : EndsWord [] := trivial
  have hw := readFragments_word hne (fun c hc => isWordPart_of_isOperandPart (h c hc)) hd []
  rw [List.append_nil, readFragments] at hw
  exact hw

/-- A word that is a token by itself is a name or a number, and so an operand. -/
theorem primed_operandParts {t : Token} (ht : tokenize cs = .ok [t]) (hs : ∀ s, t ≠ .sign s) : Primed cs where
  taken := ⟨_, taken_operandParts hne h⟩
  reads := by
    rw [withTruthiness_operandParts hne h]
    exact .ordinary hne fun c hc => isOrdinary_of_isOperandPart (h c hc)
  readable := by
    rw [withTruthiness_operandParts hne h]
    obtain ⟨fs, hf, ht⟩ := bind_eq_ok ht
    have hn : ∃ n, Node.ofTokens [t] = .ok (.mk .group [n]) := by
      match t, hs with
      | .name s, _ => exact ⟨_, rfl⟩
      | .const v, _ => exact ⟨_, rfl⟩
      | .sign s, hs => exact absurd rfl (hs s)
    obtain ⟨n, hn⟩ := hn
    exact .parsed hf ht hn (List.cons_ne_nil _ _)

/-- A word that is a token by itself, if it is a name, is a name in front of an argument. -/
theorem isName_operandParts {s : String} (ht : tokenize cs = .ok [.name s]) : IsName cs s where
  ne_nil := hne
  wordPart c hc := isWordPart_of_isOperandPart (h c hc)
  classified := by
    have hleft : (classifyWord cs []).2 = [] := by
      unfold classifyWord
      split <;> rfl
    rw [tokenize, fragments_operandParts hne h, ok_bind, tokensOf_word, hleft, tokensOf] at ht
    exact Prod.ext (by simpa [Except.map] using ht) hleft

end

/-! ## Literals -/

section

variable {body : List Char} (h : Closes body)

include h

theorem taken_literal : Taken ('"' :: body) [.text ('"' :: body)] where
  marks := by
    have hp : Paired [.text ('"' :: body)] [some (.text ('"' :: body))] := .mark rfl ⟨body, rfl, h⟩ .nil
    refine ⟨_, hp, fun more => ?_⟩
    have hn : nextMark '"' (body ++ more) = (.text ('"' :: body), more) := by simp [nextMark, h.span]
    rw [List.cons_append, marksOf_of_nextMark hn]
    rfl
  solid _ := rfl
  taken _ := rfl

theorem primed_literal : Primed ('"' :: body) := by
  have hw : withTruthinessChars ('"' :: body) = '"' :: body := by
    rw [(taken_literal h).withTruthiness_eq]
    rfl
  refine ⟨⟨_, taken_literal h⟩, ?_, ?_⟩
  · rw [hw]
    exact .literal h
  · rw [hw]
    cases ht : readText body with
    | error e => exact .refused (readFragments_text_error ht [])
    | ok p =>
      obtain ⟨s, left⟩ := p
      have hspan := h.span []
      rw [List.append_nil] at hspan
      obtain rfl : [] = left := by
        rw [← spanText_of_readText ht, hspan]
      have hf : fragments ('"' :: body) = .ok [.text (String.ofList s)] := by
        rw [fragments, readFragments_text ht, readFragments]
        rfl
      have ht : tokensOf [.text (String.ofList s)] = .ok [.const (.text (String.ofList s))] := by
        rw [tokensOf_text, tokensOf]
        rfl
      have hn : Node.ofTokens [.const (.text (String.ofList s))] =
          .ok (.mk .group [.leaf (.const (.text (String.ofList s)))]) := rfl
      exact .parsed hf ht hn (List.cons_ne_nil _ _)

end

/-! ## Groups and calls -/

theorem ofTokens_call (name : String) {ts : List Token} {root : Node} (h : Node.ofTokens ts = .ok root) :
    Node.ofTokens (.name name :: .sign .opening :: (ts ++ [.sign .closing])) =
      .ok (.mk .group [.mk (.call name) [root]]) := by
  obtain ⟨operands, rfl⟩ := eq_group (isGroup_of_ofTokens h)
  have hc : addToken false (.name name) (some (.sign .opening)) [Node.emptyGroup] =
      .ok [.mk .group [.leaf (.call name)]] := rfl
  have ha : addNode (.mk .group operands) [.mk .group [.leaf (.call name)]] =
      .ok [.mk .group [.mk (.call name) [.mk .group operands]]] := rfl
  rw [Node.ofTokens, addTokens, List.head?_cons, hc, ok_bind, addTokens_group h, ha]
  rfl

/-- An expression that stands alone and has a tree by itself. -/
structure Argument (cs : List Char) (fs : List Fragment) (ts : List Token) (root : Node) : Prop where
  standsAlone : standsAlone .evaluator cs
  fragments : fragments (withTruthinessChars cs) = .ok fs
  tokens : tokensOf fs = .ok ts
  tree : Node.ofTokens ts = .ok root

namespace Argument

variable {cs : List Char} {fs : List Fragment} {ts : List Token} {root : Node} (h : Argument cs fs ts root)

include h

theorem marksOf_group (more : List Char) :
    marksOf ('(' :: (cs ++ [')']) ++ more) = .opening :: (marksOf cs ++ [.closing]) ++ marksOf more := by
  obtain ⟨b, hb⟩ := standsAlone_iff.1 h.standsAlone
  have ha : '(' :: (cs ++ [')']) ++ more = '(' :: (cs ++ ')' :: more) := by simp
  rw [ha, marksOf_opening, marksOf_append (by decide) hb, marksOf_closing]
  simp

theorem spells : Spells ('(' :: (withTruthinessChars cs ++ [')'])) (.mark '(' :: (fs ++ [.mark ')']))
    (.sign .opening :: (ts ++ [.sign .closing])) :=
  .parenthesized (standsAlone_withTruthiness h.standsAlone) h.fragments h.tokens

theorem reads : Reads false ('(' :: (withTruthinessChars cs ++ [')'])) false := by
  obtain ⟨s, hs⟩ := reads_withTruthiness h.standsAlone
  exact hs.parenthesized

theorem taken_group : Taken ('(' :: (cs ++ [')'])) [.group (outline cs) true] where
  marks := ⟨_, Paired.nil.parenthesized h.standsAlone, h.marksOf_group⟩
  solid _ := rfl
  taken _ := rfl

theorem primed_group : Primed ('(' :: (cs ++ [')'])) := by
  have hw : withTruthinessChars ('(' :: (cs ++ [')'])) = '(' :: (withTruthinessChars cs ++ [')']) := by
    rw [h.taken_group.withTruthiness_eq]
    rfl
  refine ⟨⟨_, h.taken_group⟩, ?_, ?_⟩
  · rw [hw]
    exact h.reads
  · rw [hw]
    exact .parsed h.spells.fragments_eq h.spells.tokensOf_eq (ofTokens_group h.tree) (List.cons_ne_nil _ _)

variable {name : List Char} {s : String} (hn : IsName name s) (ho : ∀ c ∈ name, isOperandPart c)

include hn ho

theorem taken_call : Taken (name ++ '(' :: (cs ++ [')'])) (name.map .char ++ [.group (outline cs) true]) where
  marks := by
    have hp := paired_chars ho (Paired.nil.parenthesized h.standsAlone)
    have hmap : (name.map Part.char).map some ++ [some (.group (outline cs) true)] =
        (name.map Part.char ++ [Part.group (outline cs) true]).map some := by simp
    rw [hmap] at hp
    refine ⟨_, hp, fun more => ?_⟩
    rw [List.append_assoc, marksOf_operandParts ho, h.marksOf_group]
    simp
  solid rest := by
    rw [List.append_assoc]
    exact spanChars_blank_operandParts hn.ne_nil ho _
  taken {rest} _ := by
    rw [List.append_assoc, takeOperand_operandParts hn.ne_nil ho, takeBare, spanChars_operandParts ho]
    match name, hn.ne_nil with
    | c :: name, _ => simp [spanChars, Part.charOf?]

theorem primed_call : Primed (name ++ '(' :: (cs ++ [')'])) := by
  have hw : withTruthinessChars (name ++ '(' :: (cs ++ [')'])) =
      name ++ '(' :: (withTruthinessChars cs ++ [')']) := by
    rw [(h.taken_call hn ho).withTruthiness_eq, Clause.empty, joinPieces_chars]
    rfl
  have hspells := h.spells.named hn
  refine ⟨⟨_, h.taken_call hn ho⟩, ?_, ?_⟩
  · rw [hw]
    exact (Reads.quiet fun c hc => isOrdinary_of_isOperandPart (ho c hc)).append h.reads
  · rw [hw]
    exact .parsed hspells.fragments_eq hspells.tokensOf_eq (ofTokens_call s h.tree) (List.cons_ne_nil _ _)

end Argument

end FraudScreen.Expr
