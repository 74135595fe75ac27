import FraudScreen.Proofs.Screening.Separate

/-!
# Both ways of scanning find the same

A pattern is found with the same expression either way, unless the plain way leaves it out for its size
(`Method.expression?_eq`). So a scanner answers whatever it is asked the same with either: `Scanner.answers_eq`.
-/
namespace FraudScreen.Screening

/-- The way to scan makes no difference to the expression of a pattern. -/
theorem Method.expression?_eq {p : Pattern} (h : p.IsWithinLimits) :
    accelerated.expression? p = fallback.expression? p := by
  rw [expression?, expression?, Entry.ofPattern?_eq h, Option.map_map]
  rfl

/-! ## Whatever is asked for -/

/-- A call of a scanner. -/
inductive Call where
  | compile (ps : List Pattern)
  | scan (text : String) (category : Option String)
  | scanAll (texts : List String) (category : Option String)

/-- What comes back from a call, but for the name of the method. -/
inductive Answer where
  | compiled (compiled skipped : Nat)
  | found (f : Findings)
deriving DecidableEq, Repr

/-- No literal text among the patterns of a call is too large for an expression. -/
def Call.IsWithinLimits : Call → Prop
  | .compile ps => ∀ p ∈ ps, p.IsWithinLimits
  | .scan .. | .scanAll .. => True

instance : (c : Call) → Decidable c.IsWithinLimits
  | .compile ps => inferInstanceAs (Decidable (∀ p ∈ ps, p.IsWithinLimits))
  | .scan .. | .scanAll .. => .isTrue trivial

namespace Scanner

def call (s : Scanner) : Call → Scanner × Answer
  | .compile ps =>
    let (s, r) := s.compile ps
    (s, .compiled r.compiled r.skipped)
  | .scan text category =>
    let (s, f) := s.scan text category
    (s, .found f)
  | .scanAll texts category =>
    let (s, f) := s.scanAll texts category
    (s, .found f)

/-- What comes back from calls one after another, each time with the number of texts scanned so far. -/
def answers (s : Scanner) : List Call → List (Answer × Nat)
  | [] => []
  | c :: rest =>
    let (s, a) := s.call c
    (a, s.scans) :: s.answers rest

end Scanner

/-- Two databases of one size that find the same. -/
structure Database.Alike (a b : Database) : Prop where
  size : a.size = b.size
  hits : a.hits = b.hits

theorem Database.alike_compile {ps : List Pattern} (h : ∀ p ∈ ps, p.IsWithinLimits) :
    Alike (compile .accelerated ps) (compile .fallback ps) := by
  constructor
  · rw [size_compile, size_compile]
    exact List.countP_congr fun p hp => by rw [Method.expression?_eq (h p hp)]
  · funext text category
    rw [hits_compile, hits_compile]
    exact List.filterMap_congr fun p hp => by rw [Method.hit?, Method.hit?, Method.expression?_eq (h p hp)]

theorem Database.Alike.scan {a b : Database} (h : Alike a b) : a.scan = b.scan := by
  funext text category
  rw [Database.scan, Database.scan, h.size, h.hits]

theorem Database.Alike.scanAll {a b : Database} (h : Alike a b) : a.scanAll = b.scanAll := by
  funext texts category
  rw [Database.scanAll, Database.scanAll, h.scan]

namespace Scanner

/-- An accelerated scanner and a plain one with the same patterns, after the same scans. -/
structure Alike (a b : Scanner) : Prop where
  left : a.method = .accelerated
  right : b.method = .fallback
  database : a.database.Alike b.database
  scans : a.scans = b.scans

/-- Scanners that are alike answer a call alike, and are alike after it. -/
theorem Alike.call {a b : Scanner} (h : Alike a b) {c : Call} (hc : c.IsWithinLimits) :
    Alike (a.call c).1 (b.call c).1 ∧ (a.call c).2 = (b.call c).2 := by
  cases c with
  | compile ps =>
    have hd := Database.alike_compile hc
    simp only [Scanner.call, compile, h.left, h.right, hd.size, and_true]
    exact ⟨rfl, rfl, hd, h.scans⟩
  | scan text category =>
    refine ⟨⟨h.left, h.right, h.database, congrArg (· + 1) h.scans⟩, ?_⟩
    simp only [Scanner.call, scan, h.database.scan]
  | scanAll texts category =>
    simp only [Scanner.call, scanAll_eq, h.database.scanAll, and_true]
    exact ⟨h.left, h.right, h.database, congrArg (· + texts.length) h.scans⟩

theorem Alike.answers : ∀ {cs : List Call} {a b : Scanner}, Alike a b → (∀ c ∈ cs, c.IsWithinLimits) →
    a.answers cs = b.answers cs
  | [], _, _, _, _ => rfl
  | c :: cs, a, b, h, hc => by
    obtain ⟨hn, ha⟩ := h.call (hc c (List.mem_cons_self ..))
    have ih := hn.answers fun c' h' => hc c' (List.mem_cons_of_mem _ h')
    simp only [Scanner.answers, ha, hn.scans, ih]

/-- **An accelerated scanner answers whatever it is asked as a plain one does.** -/
theorem answers_eq (cs : List Call) (h : ∀ c ∈ cs, c.IsWithinLimits) :
    (new .accelerated).answers cs = (new .fallback).answers cs := by
  have hn : Alike (new .accelerated) (new .fallback) :=
    ⟨rfl, rfl, Database.alike_compile fun _ hp => absurd hp List.not_mem_nil, rfl⟩
  exact hn.answers h

/-- Literals that overlap, one of them twice, one without regard to case, and patterns that are left out. -/
theorem answers_eq_overlapping :
    let patterns : List Pattern := [.exact 1 "abra" "name_blacklist", .exact 2 "bra" "name_whitelist",
      .exact 2 "" "name_blacklist", (Pattern.exact 3 "CAD" "other").caseInsensitive,
      .regex 4 "(" "name_blacklist", .regex 5 "a.*b" "name_blacklist", .exact 1 "abra" "name_whitelist"]
    let calls : List Call := [.compile patterns, .scan "abracadabra" none,
      .scanAll ["bra", "abra"] (some "name_whitelist")]
    (∀ c ∈ calls, c.IsWithinLimits) ∧
      (new .accelerated).answers calls = (new .fallback).answers calls := by
  intro patterns calls
  have h : ∀ c ∈ calls, c.IsWithinLimits := by decide
  exact ⟨h, answers_eq calls h⟩

end Scanner

end FraudScreen.Screening
