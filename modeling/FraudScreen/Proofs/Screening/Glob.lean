import FraudScreen.Proofs.Regex.Whole
import FraudScreen.Proofs.Screening.Separate

/-!
# What globs find

The expression of a glob asks for the whole text (`Glob.spelled?_source`), and its wildcards are points, which
stand for every character but the line feed. So a glob finds the texts that it covers without a line feed under
a wildcard, `CoversLine`, and finds each of them whole: `Database.hits_wildcard`. Of the texts without a line
feed these are all that it covers (`coversLine_iff`); the others it misses, as `hits_wildcard_lineFeed` shows.
-/
namespace FraudScreen.Screening

open Regex (lineCharacters Piece Spans SpansAll spelled? whole)
open Text (byteLength)

namespace Glob

/-- The glob stands for the whole text, and no wildcard stands for a line feed. -/
inductive CoversLine : List Char → List Char → Prop where
  | nil : CoversLine [] []
  | star {g t : List Char} (run : List Char) : '\n' ∉ run → CoversLine g t → CoversLine ('*' :: g) (run ++ t)
  | one {g t : List Char} {c : Char} : c ≠ '\n' → CoversLine g t → CoversLine ('?' :: g) (c :: t)
  | char {g t : List Char} {c : Char} : c ≠ '*' → c ≠ '?' → CoversLine g t → CoversLine (c :: g) (c :: t)

variable {g t : List Char}

theorem CoversLine.covers (h : CoversLine g t) : Covers g t := by
  induction h with
  | nil => exact .nil
  | star run _ _ ih => exact .star run ih
  | one _ _ ih => exact .one _ ih
  | char h1 h2 _ ih => exact .char h1 h2 ih

/-- Line feeds are covered by those of the glob only. -/
theorem CoversLine.count_eq (h : CoversLine g t) : t.count '\n' = g.count '\n' := by
  induction h with
  | nil => rfl
  | star run hr _ ih =>
    rw [List.count_append, List.count_eq_zero.2 hr, Nat.zero_add, ih, List.count_cons_of_ne (by decide)]
  | one hc _ ih => rw [List.count_cons_of_ne hc, List.count_cons_of_ne (by decide), ih]
  | char _ _ _ ih => rw [List.count_cons, List.count_cons, ih]

/-- For texts without line feeds it makes no difference what a wildcard may stand for. -/
theorem coversLine_iff (ht : '\n' ∉ t) : CoversLine g t ↔ Covers g t := by
  refine ⟨CoversLine.covers, fun h => ?_⟩
  induction h with
  | nil => exact .nil
  | star run _ ih =>
    rw [List.mem_append, not_or] at ht
    exact .star run ht.1 (ih ht.2)
  | one c _ ih =>
    rw [List.mem_cons, not_or] at ht
    exact .one (Ne.symm ht.1) (ih ht.2)
  | char h1 h2 _ ih => exact .char h1 h2 (ih fun h => ht (List.mem_cons_of_mem _ h))

/-! ## The expression -/

theorem setBytes_lineCharacters : Regex.Footprint.setBytes lineCharacters = 1280 := by
  have hb : lineCharacters.bounds.size = 6 := by rw [Regex.bounds_lineCharacters]; rfl
  have hq : (Text.Utf8.sequences lineCharacters).length = 10 ∧
      (Text.Utf8.sequences lineCharacters).flatten.length = 28 := by decide +kernel
  rw [Regex.Footprint.setBytes, hb, hq.1, hq.2]

/-- A character that is no wildcard and gets no backslash begins nothing in an expression. -/
theorem not_mem_syntaxCharacters {c : Char} (hstar : c ≠ '*') (hone : c ≠ '?') (he : c ∉ escaped) :
    c ∉ Regex.syntaxCharacters := fun hs => by
  have hsub : Regex.syntaxCharacters ⊆ '*' :: '?' :: escaped := by decide
  rcases List.mem_cons.1 (hsub hs) with h | h
  · exact hstar h
  · rcases List.mem_cons.1 h with h | h
    · exact hone h
    · exact he h

/-- The piece of the expression for one character of the glob. A star adds most to a machine, 1432 bytes. -/
def pieceOf (c : Char) : Piece 1432 :=
  if hstar : c = '*' then
    (Piece.repeatedSet Regex.readsAs_point Regex.repeats_star (by decide) (by decide)).mono
      (by rw [setBytes_lineCharacters]; decide)
  else if hone : c = '?' then
    (Piece.ofSet Regex.readsAs_point).mono (by rw [setBytes_lineCharacters]; decide)
  else if he : c ∈ escaped then
    (Piece.escaped c ((by decide : escaped ⊆ Regex.metaCharacters) he)).mono (by decide)
  else (Piece.ordinary c (not_mem_syntaxCharacters hstar hone he)).mono (by decide)

theorem source_pieceOf (c : Char) : (pieceOf c).source = piece c := by
  unfold pieceOf piece
  simp only [List.contains_eq_mem, decide_eq_true_eq]
  (repeat' split) <;> rfl

theorem regex_star : (pieceOf '*').regex = .many (.set lineCharacters) 0 none true :=
  Regex.repeated_set _ (by decide) (by decide) _

theorem regex_one : (pieceOf '?').regex = .set lineCharacters := rfl

theorem regex_char {c : Char} (hstar : c ≠ '*') (hone : c ≠ '?') : (pieceOf c).regex = .text [c] := by
  unfold pieceOf
  rw [dif_neg hstar, dif_neg hone]
  split <;> rfl

theorem wholeSource_pieces (g : List Char) : Regex.wholeSource (g.map pieceOf) = source g := by
  rw [Regex.wholeSource, source, List.flatMap_map]
  exact congrArg (fun f => '^' :: g.flatMap f ++ ['$']) (funext source_pieceOf)

/-- **The characters of a glob match a text one after another iff the glob covers it**, with no line feed under a
wildcard. -/
theorem spansAll_pieces {t : List Char} : ∀ {g u : List Char},
    SpansAll t ((g.map pieceOf).map (·.regex)) u [] ↔ CoversLine g u
  | [], u => by
    constructor
    · rintro rfl
      exact .nil
    · rintro ⟨⟩
      rfl
  | c :: g, u => by
    have ih := @spansAll_pieces t g
    simp only [List.map_cons, SpansAll, ih]
    by_cases hstar : c = '*'
    · subst hstar
      have hrun : ∀ run : List Char, (∀ c ∈ run, lineCharacters.contains c.toNat) ↔ '\n' ∉ run := fun run => by
        simp only [Regex.contains_lineCharacters]
        exact ⟨fun h hn => h _ hn rfl, fun h c hc e => h (e ▸ hc)⟩
      have hset : (Regex.set lineCharacters).characters? = some lineCharacters := rfl
      simp only [regex_star, Regex.spans_many hset, hrun]
      constructor
      · rintro ⟨w, ⟨run, hr, -, -, rfl⟩, h⟩
        exact .star run hr h
      · rintro (_ | ⟨run, hr, h⟩ | _ | ⟨hc, _, _⟩)
        · exact ⟨_, ⟨run, hr, Nat.zero_le _, rfl, rfl⟩, h⟩
        · exact absurd rfl hc
    · by_cases hone : c = '?'
      · subst hone
        simp only [regex_one, Spans, Regex.contains_lineCharacters]
        constructor
        · rintro ⟨w, ⟨d, hd, rfl⟩, h⟩
          exact .one hd h
        · rintro (_ | _ | ⟨hd, h⟩ | ⟨_, hc, _⟩)
          · exact ⟨_, ⟨_, hd, rfl⟩, h⟩
          · exact absurd rfl hc
      · simp only [regex_char hstar hone, Spans]
        constructor
        · rintro ⟨w, rfl, h⟩
          exact .char hstar hone h
        · rintro (_ | _ | _ | ⟨_, _, h⟩)
          · exact absurd rfl hstar
          · exact absurd rfl hone
          · exact ⟨_, rfl, h⟩

/-- **The source of a glob spells the expression that asks of a whole text to match its characters.** -/
theorem spelled?_source (g : List Char) :
    spelled? (source g) = some (whole ((g.map pieceOf).map (·.regex))) := by
  rw [← wholeSource_pieces, Regex.spelled?_wholeSource]

/-- The machine for a glob is small enough up to a length of about seven thousand characters. -/
theorem fits_whole {g : List Char} (h : g.length ≤ 7300) : (whole ((g.map pieceOf).map (·.regex))).fits := by
  have hm : Regex.Footprint.mostBytes = 10485760 := rfl
  refine Regex.fits_whole (g.map pieceOf) (by decide) ?_
  rw [List.length_map, hm]
  omega

end Glob

/-! ## What is found -/

section

variable {id : UInt32} {glob category : String}

theorem Pattern.spelled?_wildcard : spelled? (Pattern.wildcard id glob category).source =
    some (whole ((glob.toList.map Glob.pieceOf).map (·.regex))) := Glob.spelled?_source glob.toList

theorem Pattern.isSmall_wildcard (h : glob.length ≤ 7300) : (Pattern.wildcard id glob category).IsSmall :=
  (Pattern.isSmall_iff spelled?_wildcard).2 (Glob.fits_whole (String.length_toList ▸ h))

/-- A glob finds a whole text that it covers, and nothing else. -/
theorem Method.hit?_wildcard {m : Method} (hne : glob ≠ "") (hsmall : (Pattern.wildcard id glob category).IsSmall)
    {text : String} {filter : Option String} {h : Hit} :
    m.hit? text.toList filter (.wildcard id glob category) = some h ↔
      filter.all (category == ·) ∧ Glob.CoversLine glob.toList text.toList ∧
        h = ⟨id, (Pattern.wildcard id glob category).name, text, 0, byteLength text.toList, category⟩ := by
  have hr : m.expression? (.wildcard id glob category) =
      some (whole ((glob.toList.map Glob.pieceOf).map (·.regex))) := by
    rw [expression?_of_not_plain hne rfl, Regex.parse_eq, Pattern.spelled?_wildcard, Option.filter_some,
      if_pos ((Pattern.isSmall_iff Pattern.spelled?_wildcard).1 hsmall)]
  have hof : Hit.ofSpan (.wildcard id glob category) text.toList 0 text.toList.length =
      ⟨id, (Pattern.wildcard id glob category).name, text, 0, byteLength text.toList, category⟩ := by
    simp only [Hit.ofSpan, List.take_length, List.drop_zero, List.take_zero, String.ofList_toList]
    rfl
  simp only [hit?, hr, Option.bind_some, Option.ite_none_right_eq_some, Option.map_eq_some_iff,
    Regex.find?_whole_pieces, Glob.spansAll_pieces]
  refine and_congr Iff.rfl ⟨?_, ?_⟩
  · rintro ⟨_, ⟨rfl, hc⟩, rfl⟩
    exact ⟨hc, hof⟩
  · rintro ⟨hc, rfl⟩
    exact ⟨_, ⟨rfl, hc⟩, hof⟩

end

/-- **A glob finds the texts that it covers without a line feed under a wildcard, each of them whole**, with either
way of scanning and whatever patterns stand before and after it. For texts without line feeds these are the texts that
it covers. -/
theorem Database.hits_wildcard (id : UInt32) (glob category : String)
    (hsmall : (Pattern.wildcard id glob category).IsSmall) (text : String) (filter : Option String) :
    ∃ own : List Hit,
      (∀ (m : Method) (before after : List Pattern),
        (compile m (before ++ .wildcard id glob category :: after)).hits text.toList filter =
          (compile m before).hits text.toList filter ++ own ++ (compile m after).hits text.toList filter) ∧
      (glob ≠ "" ∧ filter.all (category == ·) ∧ Glob.CoversLine glob.toList text.toList →
        own = [⟨id, (Pattern.wildcard id glob category).name, text, 0, byteLength text.toList, category⟩]) ∧
      (¬ (glob ≠ "" ∧ filter.all (category == ·) ∧ Glob.CoversLine glob.toList text.toList) → own = []) ∧
      (Glob.CoversLine glob.toList text.toList → Glob.Covers glob.toList text.toList) ∧
      ('\n' ∉ text.toList → (Glob.CoversLine glob.toList text.toList ↔ Glob.Covers glob.toList text.toList)) := by
  have hown : ∀ m : Method, (m.hit? text.toList filter (.wildcard id glob category)).toList =
      (Method.fallback.hit? text.toList filter (.wildcard id glob category)).toList := by
    intro m
    by_cases hne : glob = ""
    · rw [Method.hit?_empty hne, Method.hit?_empty hne]
    · refine congrArg Option.toList (Option.ext fun h => ?_)
      rw [Method.hit?_wildcard hne hsmall, Method.hit?_wildcard hne hsmall]
  refine ⟨(Method.fallback.hit? text.toList filter (.wildcard id glob category)).toList, ?_, ?_, ?_,
    Glob.CoversLine.covers, fun ht => Glob.coversLine_iff ht⟩
  · intro m before after
    rw [hits_append_cons, hown]
  · rintro ⟨hne, hc⟩
    rw [(Method.hit?_wildcard hne hsmall).2 ⟨hc.1, hc.2, rfl⟩, Option.toList_some]
  · intro hno
    by_cases hne : glob = ""
    · rw [Method.hit?_empty hne, Option.toList_none]
    · rw [Option.toList_eq_nil_iff, Option.eq_none_iff_forall_ne_some]
      intro h hh
      obtain ⟨hc, hg, -⟩ := (Method.hit?_wildcard hne hsmall).1 hh
      exact hno ⟨hne, hc, hg⟩

/-- Wildcards next to characters that mean something in expressions. -/
theorem Database.hits_wildcard_brackets :
    let p := Pattern.wildcard 7 "M[?].*" "blacklist"
    p.IsSmall ∧ ∃ own : List Hit,
      (∀ (m : Method) (before after : List Pattern),
        (compile m (before ++ p :: after)).hits "M[é].x".toList none =
          (compile m before).hits "M[é].x".toList none ++ own ++ (compile m after).hits "M[é].x".toList none) ∧
      own = [⟨7, p.name, "M[é].x", 0, 7, "blacklist"⟩] := by
  have hsmall : (Pattern.wildcard 7 "M[?].*" "blacklist").IsSmall := Pattern.isSmall_wildcard (by decide)
  obtain ⟨own, hall, hone, -⟩ := hits_wildcard 7 "M[?].*" "blacklist" hsmall "M[é].x" none
  refine ⟨hsmall, own, hall, hone ⟨by decide, rfl, ?_⟩⟩
  exact .char (by decide) (by decide) (.char (by decide) (by decide) (.one (by decide)
    (.char (by decide) (by decide) (.char (by decide) (by decide) (.star ['x'] (by decide) .nil)))))

/-- The glob `a*` covers a text of two lines that begins with `a`, but neither way of scanning finds it. -/
theorem Database.hits_wildcard_lineFeed :
    Glob.Covers "a*".toList "a\nb".toList ∧
      ∀ m : Method, (compile m [.wildcard 1 "a*" "blacklist"]).hits "a\nb".toList none = [] := by
  refine ⟨.char (by decide) (by decide) (.star ['\n', 'b'] .nil), fun m => ?_⟩
  rw [hits_compile, List.filterMap_eq_nil_iff]
  intro p hp
  rw [List.mem_singleton.1 hp, Option.eq_none_iff_forall_ne_some]
  intro h hh
  obtain ⟨-, hc, -⟩ := (Method.hit?_wildcard (by decide) (Pattern.isSmall_wildcard (by decide))).1 hh
  exact absurd hc.count_eq (by decide)

end FraudScreen.Screening
