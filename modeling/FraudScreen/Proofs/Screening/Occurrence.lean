import Mathlib.Data.Nat.Find
import Mathlib.Order.Bounds.Defs
import FraudScreen.Proofs.Screening.Workspace

/-!
# What literals find

A literal text is found iff the scanned text holds it, and then once, at the first byte where it stands:
`Workspace.find_literal`. That depends neither on the patterns around it nor on earlier scans on the thread.
-/
namespace FraudScreen.Screening

open Regex (StandsFirst)
open Text (byteLength byteLength_append)

/-! ## Where a text stands, in bytes -/

/-- The text `cs` stands in `t` from the byte `n` on. -/
def StandsAtByte (cs t : List Char) (n : Nat) : Prop :=
  ∃ before after, t = before ++ cs ++ after ∧ byteLength before = n

variable {cs t : List Char} {i : Nat}

/-- The first place where a text stands is the first byte where it stands. -/
theorem isLeast_of_standsFirst (h : StandsFirst cs t i) :
    IsLeast {n | StandsAtByte cs t n} (byteLength (t.take i)) := by
  constructor
  · obtain ⟨after, ha⟩ := h.stands
    exact ⟨t.take i, after, by rw [List.append_assoc, ha, List.take_append_drop], rfl⟩
  · rintro _ ⟨before, after, rfl, rfl⟩
    -- a place before the first one would be one where the text stands
    have hle : i ≤ before.length := by
      refine Nat.le_of_not_lt fun hlt => h.first _ hlt ?_
      rw [List.append_assoc, List.drop_left]
      exact List.prefix_append ..
    have hsplit : before = before.take i ++ before.drop i := (List.take_append_drop i before).symm
    rw [List.append_assoc, List.take_append_of_le_length hle]
    conv => rhs; rw [hsplit, byteLength_append]
    exact Nat.le_add_right ..

/-- A text that is held somewhere stands first somewhere. -/
theorem exists_standsFirst_iff : (∃ i, StandsFirst cs t i) ↔ cs <:+: t := by
  constructor
  · rintro ⟨i, h⟩
    exact h.stands.isInfix.trans (List.drop_suffix i t).isInfix
  · rintro ⟨before, after, rfl⟩
    have hstands : cs <+: (before ++ cs ++ after).drop before.length := by
      rw [List.append_assoc, List.drop_left]
      exact List.prefix_append ..
    classical
    have hex : ∃ i, cs <+: (before ++ cs ++ after).drop i := ⟨_, hstands⟩
    have hwithin : before.length ≤ (before ++ cs ++ after).length := by simp only [List.length_append]; omega
    exact ⟨Nat.find hex, Nat.le_trans (Nat.find_min' hex hstands) hwithin, Nat.find_spec hex,
      fun k hk => Nat.find_min hex hk⟩

/-! ## What is found -/

/-- A literal text finds itself where it stands first, and nothing else. -/
theorem Method.hit?_literal {m : Method} {p : Pattern} (hp : p.isPlainLiteral) (hne : p.text ≠ "")
    (hm : m = .accelerated ∨ p.IsWithinLimits) {text : List Char} {category : Option String} {h : Hit} :
    m.hit? text category p = some h ↔ p.isIn category ∧ ∃ i, StandsFirst p.text.toList text i ∧
      h = ⟨p.id, p.name, p.text, byteLength (text.take i), byteLength (text.take i) + byteLength p.text.toList,
        p.category⟩ := by
  have hof : ∀ {i}, StandsFirst p.text.toList text i → Hit.ofSpan p text i (i + p.text.toList.length) =
      ⟨p.id, p.name, p.text, byteLength (text.take i), byteLength (text.take i) + byteLength p.text.toList,
        p.category⟩ := by
    intro i hi
    have htake : (text.drop i).take p.text.toList.length = p.text.toList := (List.prefix_iff_eq_take.1 hi.stands).symm
    have hdrop : (text.take (i + p.text.toList.length)).drop i = p.text.toList := by
      rw [List.drop_take, Nat.add_sub_cancel_left, htake]
    rw [Hit.ofSpan, hdrop, List.take_add, htake, byteLength_append, String.ofList_toList]
  simp only [hit?, expression?_of_plain hne hp hm, Option.bind_some, Option.ite_none_right_eq_some,
    Option.map_eq_some_iff, Prod.exists, Regex.find?_text]
  refine and_congr_right fun _ => ⟨?_, ?_⟩
  · rintro ⟨i, _, ⟨hi, rfl⟩, rfl⟩
    exact ⟨i, hi, hof hi⟩
  · rintro ⟨i, hi, rfl⟩
    exact ⟨i, _, ⟨hi, rfl⟩, hof hi⟩

theorem Findings.hits_foldl_push : ∀ (hs : List Hit) (f : Findings), (hs.foldl push f).hits = f.hits ++ hs
  | [], _ => (List.append_nil _).symm
  | h :: hs, f => by
    have hpush : (f.push h).hits = f.hits ++ [h] := by
      unfold push
      dsimp only
      (repeat' split) <;> rfl
    rw [List.foldl_cons, hits_foldl_push hs, hpush, List.append_assoc, List.singleton_append]

theorem Findings.hits_ofHits (n : Nat) (hs : List Hit) : (ofHits n hs).hits = hs := hits_foldl_push hs _

/-- **A literal text is found iff the scanned text holds it, and then once, at the first byte where it stands.** That
holds with either way of scanning, whatever patterns stand before and after it and whatever was scanned before on the
thread, as long as the pattern is compiled: the plain way leaves out texts that are too large for an expression. -/
theorem Workspace.find_literal {p : Pattern} (hp : p.isPlainLiteral) (hne : p.text ≠ "") (text : String)
    (category : Option String) :
    ∃ own : List Hit,
      (∀ m : Method, m = .accelerated ∨ p.IsWithinLimits → ∀ (before after : List Pattern) (earlier : List Scan),
        ((start.after earlier).find ⟨.compile m (before ++ p :: after), text, category⟩).2.hits =
          (Database.compile m before).hits text.toList category ++ own ++
            (Database.compile m after).hits text.toList category) ∧
      (p.isIn category ∧ p.text.toList <:+: text.toList →
        ∃ start, IsLeast {n | StandsAtByte p.text.toList text.toList n} start ∧
          own = [⟨p.id, p.name, p.text, start, start + byteLength p.text.toList, p.category⟩]) ∧
      (¬ (p.isIn category ∧ p.text.toList <:+: text.toList) → own = []) := by
  have hlit := @Method.hit?_literal .accelerated p hp hne (.inl rfl) text.toList category
  refine ⟨(Method.accelerated.hit? text.toList category p).toList, fun m hm before after earlier => ?_, ?_, ?_⟩
  · have hown : m.hit? text.toList category p = Method.accelerated.hit? text.toList category p :=
      Option.ext fun h => by rw [Method.hit?_literal hp hne hm, hlit]
    rw [find_eq, Database.scan, Findings.hits_ofHits, Database.hits_append_cons, hown]
  · rintro ⟨hc, hin⟩
    obtain ⟨i, hi⟩ := exists_standsFirst_iff.2 hin
    refine ⟨_, isLeast_of_standsFirst hi, ?_⟩
    rw [hlit.2 ⟨hc, i, hi, rfl⟩, Option.toList_some]
  · intro hno
    rw [Option.toList_eq_nil_iff, Option.eq_none_iff_forall_ne_some]
    intro h hh
    obtain ⟨hc, i, hi, -⟩ := hlit.1 hh
    exact hno ⟨hc, exists_standsFirst_iff.1 ⟨i, hi⟩⟩

/-- A literal with a character of two bytes and one that means something in expressions, which stands in the text
twice, with an overlap. -/
theorem Workspace.find_literal_overlapping :
    let p := Pattern.exact 1 "é.é" "blacklist"
    let text := "aé.é.é"
    p.isPlainLiteral ∧ p.text ≠ "" ∧ ∃ own : List Hit,
      (∀ m : Method, m = .accelerated ∨ p.IsWithinLimits → ∀ (before after : List Pattern) (earlier : List Scan),
        ((start.after earlier).find ⟨.compile m (before ++ p :: after), text, none⟩).2.hits =
          (Database.compile m before).hits text.toList none ++ own ++
            (Database.compile m after).hits text.toList none) ∧
      p.IsWithinLimits ∧ ∃ start, IsLeast {n | StandsAtByte p.text.toList text.toList n} start ∧
        own = [⟨1, p.name, "é.é", start, start + 5, "blacklist"⟩] := by
  intro p text
  have hp : p.isPlainLiteral := by decide
  have hne : p.text ≠ "" := by decide
  obtain ⟨own, hall, hone, -⟩ := find_literal hp hne text none
  have hin : p.text.toList <:+: text.toList := ⟨['a'], ['.', 'é'], by decide⟩
  have hlen : byteLength p.text.toList = 5 := by decide
  rw [hlen] at hone
  exact ⟨hp, hne, own, hall, by decide, hone ⟨rfl, hin⟩⟩

end FraudScreen.Screening
