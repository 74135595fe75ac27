import FraudScreen.Screening.Screener

/-!
# Screeners answer for the patterns they have

The list of patterns, the compiled database and the flag that says whether the one belongs to the other are
kept apart, and each operation changes some of them. `Fresh` ties them together: a scanner that is in use was
compiled from the list as it stands. Every operation keeps it, so a screener that answers at all answers as
one that was just built from the same patterns: `Screener.answers_for_its_patterns`. What went wrong last is
remembered beside all this and nothing depends on it: `Screener.replies_forgetting`.
-/
namespace FraudScreen.Screening

open Payment (Transaction)

/-! ## Screeners in use -/

/-- What a screener is asked to look at. -/
inductive Query where
  | text (s : String) (category : Option String)
  | batch (texts : List String) (category : Option String)
  | transaction (tx : Transaction)

/-- The texts that are scanned for a query. -/
def Query.texts : Query → List String
  | text s _ => [s]
  | batch texts _ => texts
  | transaction tx => screenedTexts tx

/-- What a query finds in compiled patterns. -/
def Database.find (d : Database) : Query → Findings
  | .text s category => d.scan s category
  | .batch texts category => d.scanAll texts category
  | .transaction tx =>
    { d.scanAll (screenedTexts tx) none with textsProcessed := (screenedFields tx).length }

/-- What can be done with a screener. -/
inductive Operation where
  | load (blacklist whitelist : File)
  | add (p : Pattern)
  | compile (b : Builders)
  | find (q : Query)
  | resetScans

/-- What an operation answers. -/
inductive Reply where
  | done
  | loaded (outcome : Except ReadFault Unit)
  | compiled (outcome : Except CompileFault CompileReport)
  | found (f : Findings)

namespace Screener

/-- What a query finds. -/
def find (s : Screener) : Query → Screener × Findings
  | .text t category => s.scan t category
  | .batch texts category => s.scanAll texts category
  | .transaction tx => s.screen tx

def step (s : Screener) : Operation → Screener × Reply
  | .load blacklist whitelist =>
    let (s, outcome) := s.load blacklist whitelist
    (s, .loaded outcome)
  | .add p => (s.add p, .done)
  | .compile b =>
    let (s, outcome) := s.compile b
    (s, .compiled outcome)
  | .find q =>
    let (s, f) := s.find q
    (s, .found f)
  | .resetScans => (s.resetScans, .done)

/-- A screener after operations one after another. -/
def run (s : Screener) (ops : List Operation) : Screener := ops.foldl (fun s op => (s.step op).1) s

/-- What operations one after another answer. -/
def replies (s : Screener) : List Operation → List Reply
  | [] => []
  | op :: ops => (s.step op).2 :: (s.step op).1.replies ops

/-- A new screener to which patterns were added one after another, and that was compiled once. -/
def rebuilt (r : Request) (b : Builders) (ps : List Pattern) : Screener :=
  (new r).run (ps.map .add ++ [.compile b])

theorem run_append (s : Screener) (as bs : List Operation) : s.run (as ++ bs) = (s.run as).run bs :=
  List.foldl_append ..

/-! ## Single operations -/

theorem find_of_compiled {s : Screener} (h : s.isCompiled = true) (q : Query) :
    s.find q = ({ s with scanner := { s.scanner with scans := s.scanner.scans + q.texts.length } },
      s.scanner.database.find q) := by
  cases q with
  | text t category => exact if_pos h
  | batch texts category => simp only [find, scanAll, h, if_true, Scanner.scanAll_eq, Database.find, Query.texts]
  | transaction tx =>
    simp only [find, screen, h, if_true, Scanner.scanEach_eq, Database.find, Database.scanAll, Query.texts]

theorem find_of_not_compiled {s : Screener} (h : s.isCompiled = false) (q : Query) :
    s.find q = (s, .empty) := by
  have hc : ¬ s.isCompiled = true := by simp [h]
  cases q with
  | text t category => exact if_neg hc
  | batch texts category => exact if_neg hc
  | transaction tx => exact if_neg hc

/-- Two lists that are both read take the place of the patterns. If one cannot be read, only that is
remembered, the first one before the second. -/
theorem load_cases (s : Screener) (blacklist whitelist : File) :
    (∃ e, (blacklist.readText >>= fun _ => whitelist.readText) = .error e ∧
      s.load blacklist whitelist = ({ s with lastError := some (.unread e) }, .error e)) ∨
    ∃ b w, blacklist.readText = .ok b ∧ whitelist.readText = .ok w ∧
      ∃ ps, s.load blacklist whitelist =
        ({ s with patterns := ps, nextId := nextIdAfter ps, isCompiled := false }, .ok ()) := by
  unfold load readListFile
  cases hb : blacklist.readText with
  | error e => exact .inl ⟨e, rfl, rfl⟩
  | ok b =>
    cases hw : whitelist.readText with
    | error e => exact .inl ⟨e, rfl, rfl⟩
    | ok w => exact .inr ⟨b, w, rfl, rfl, _, rfl⟩

theorem load_of_unread {s : Screener} {blacklist whitelist : File} {e : ReadFault}
    (h : (blacklist.readText >>= fun _ => whitelist.readText) = .error e) :
    s.load blacklist whitelist = ({ s with lastError := some (.unread e) }, .error e) := by
  obtain ⟨e', h', hl⟩ | ⟨b, w, hb, hw, -⟩ := s.load_cases blacklist whitelist
  · obtain rfl : e' = e := by simpa [h] using h'.symm
    exact hl
  · rw [hb, hw] at h
    nomatch h

/-- The patterns are compiled if no builder gives up. Otherwise nothing is found until they are compiled again. -/
theorem compile_cases (s : Screener) (b : Builders) :
    (∃ e, b.fault? s.scanner.method s.patterns = some e ∧
      s.compile b = ({ s with isCompiled := false, lastError := some (.uncompiled e) }, .error e)) ∨
    b.fault? s.scanner.method s.patterns = none ∧
      s.compile b = ({ s with
        scanner := { s.scanner with database := .compile s.scanner.method s.patterns }
        isCompiled := true
        lastError := none }, .ok (s.scanner.compile s.patterns).2) := by
  unfold compile Scanner.build
  cases b.fault? s.scanner.method s.patterns with
  | some e => exact .inl ⟨e, rfl, rfl⟩
  | none => exact .inr ⟨rfl, rfl⟩

/-! ## The database belongs to the list -/

/-- A scanner in use was compiled from the patterns as they stand, in the way that was asked for. -/
structure Fresh (r : Request) (s : Screener) : Prop where
  method : s.scanner.method = r.method
  database : s.isCompiled = true → s.scanner.database = .compile r.method s.patterns

theorem fresh_new (r : Request) : Fresh r (new r) := ⟨rfl, nofun⟩

namespace Fresh

variable {r : Request} {s : Screener}

/-- Operations after which the scanner is not used keep it, whatever else they change. -/
theorem of_not_compiled (h : Fresh r s) {s' : Screener} (hs : s'.scanner = s.scanner)
    (hc : s'.isCompiled = false) : Fresh r s' :=
  ⟨hs ▸ h.method, fun ht => by simp [hc] at ht⟩

theorem load (h : Fresh r s) (blacklist whitelist : File) : Fresh r (s.load blacklist whitelist).1 := by
  obtain ⟨e, -, hl⟩ | ⟨-, -, -, -, ps, hl⟩ := s.load_cases blacklist whitelist
  · rw [hl]
    exact ⟨h.method, h.database⟩
  · rw [hl]
    exact h.of_not_compiled rfl rfl

theorem compile (h : Fresh r s) (b : Builders) : Fresh r (s.compile b).1 := by
  obtain ⟨e, -, hc⟩ | ⟨-, hc⟩ := s.compile_cases b
  · rw [hc]
    exact h.of_not_compiled rfl rfl
  · rw [hc]
    exact ⟨h.method, fun _ => congrArg (Database.compile · s.patterns) h.method⟩

theorem find (h : Fresh r s) (q : Query) : Fresh r (s.find q).1 := by
  cases hc : s.isCompiled with
  | true =>
    rw [find_of_compiled hc]
    exact ⟨h.method, h.database⟩
  | false =>
    rw [find_of_not_compiled hc]
    exact h

theorem step (h : Fresh r s) (op : Operation) : Fresh r (s.step op).1 := by
  cases op with
  | load blacklist whitelist => exact h.load blacklist whitelist
  | add p => exact h.of_not_compiled rfl rfl
  | compile b => exact h.compile b
  | find q => exact h.find q
  | resetScans => exact ⟨h.method, h.database⟩

theorem run (h : Fresh r s) (ops : List Operation) : Fresh r (s.run ops) := by
  induction ops generalizing s with
  | nil => exact h
  | cons op ops ih => exact ih (h.step op)

end Fresh

/-- Screeners of one kind that are in use find the same if they have the same patterns, however they came
by them. -/
theorem Fresh.find_eq {r : Request} {s t : Screener} (hs : Fresh r s) (ht : Fresh r t)
    (hsc : s.isCompiled = true) (htc : t.isCompiled = true) (hp : s.patterns = t.patterns) (q : Query) :
    (s.find q).2 = (t.find q).2 := by
  rw [find_of_compiled hsc, find_of_compiled htc, hs.database hsc, ht.database htc, hp]

theorem patterns_run_add (ps : List Pattern) (s : Screener) :
    (s.run (ps.map .add)).patterns = s.patterns ++ ps := by
  induction ps generalizing s with
  | nil => exact (List.append_nil _).symm
  | cons p ps ih => exact (ih (s.add p)).trans (List.append_assoc ..)

theorem patterns_compile (s : Screener) (b : Builders) : (s.compile b).1.patterns = s.patterns := by
  obtain ⟨e, -, hc⟩ | ⟨-, hc⟩ := s.compile_cases b <;> rw [hc]

theorem rebuilt_patterns (r : Request) (b : Builders) (ps : List Pattern) : (rebuilt r b ps).patterns = ps := by
  rw [rebuilt, run_append]
  exact (patterns_compile _ b).trans (patterns_run_add ps (new r))

/-- Builders that take the patterns take them when they were added one after another. -/
theorem rebuilt_isCompiled {r : Request} {b : Builders} {ps : List Pattern} (h : b.fault? r.method ps = none) :
    (rebuilt r b ps).isCompiled = true := by
  rw [rebuilt, run_append]
  have hmethod : ((new r).run (ps.map .add)).scanner.method = r.method := ((fresh_new r).run _).method
  have hpatterns : ((new r).run (ps.map .add)).patterns = ps := patterns_run_add ps (new r)
  obtain ⟨e, he, -⟩ | ⟨-, hc⟩ := ((new r).run (ps.map .add)).compile_cases b
  · rw [hmethod, hpatterns, h] at he
    cases he
  · exact congrArg (·.1.isCompiled) hc

/-! ## The last error is of no account -/

/-- The screener without what went wrong last. -/
def forgetting (s : Screener) : Screener := { s with lastError := none }

theorem find_forgetting (s : Screener) (q : Query) :
    s.forgetting.find q = ((s.find q).1.forgetting, (s.find q).2) := by
  cases hc : s.isCompiled with
  | true =>
    rw [find_of_compiled hc, find_of_compiled (s := s.forgetting) hc]
    rfl
  | false => rw [find_of_not_compiled hc, find_of_not_compiled (s := s.forgetting) hc]

theorem step_forgetting (s : Screener) (op : Operation) :
    (s.forgetting.step op).1.forgetting = (s.step op).1.forgetting ∧
      (s.forgetting.step op).2 = (s.step op).2 := by
  cases op with
  | load blacklist whitelist =>
    simp only [step, load, forgetting]
    split <;> simp
  | find q =>
    rw [step, step, s.find_forgetting q]
    exact ⟨rfl, rfl⟩
  | compile b =>
    simp only [step, compile, forgetting, and_self]
  | add | resetScans => exact ⟨rfl, rfl⟩

theorem replies_forgetting (s : Screener) (ops : List Operation) :
    s.forgetting.replies ops = s.replies ops := by
  induction ops generalizing s with
  | nil => rfl
  | cons op ops ih =>
    obtain ⟨hs, hr⟩ := s.step_forgetting op
    have hrest : (s.forgetting.step op).1.replies ops = (s.step op).1.replies ops :=
      calc (s.forgetting.step op).1.replies ops
        _ = (s.forgetting.step op).1.forgetting.replies ops := (ih _).symm
        _ = (s.step op).1.forgetting.replies ops := by rw [hs]
        _ = (s.step op).1.replies ops := ih _
    rw [replies, replies, hr, hrest]

/-! ## Any history -/

/-- **Whatever was done with a screener, it answers for the patterns that it has.** If it is compiled, a query
finds what it finds in a new screener of the same kind with the same patterns, compiled once, by any builders that take
them. If it is not,
nothing is found and nothing changes, the count of scans included. A load of which one file cannot be read
changes only the last error, and whatever is done later answers as if there had been no such load. -/
theorem answers_for_its_patterns (r : Request) (ops : List Operation) :
    let s := (new r).run ops
    (s.isCompiled = true → ∀ b, b.fault? r.method s.patterns = none →
        ∀ q, (s.find q).2 = ((rebuilt r b s.patterns).find q).2) ∧
      (s.isCompiled = false → ∀ q, s.find q = (s, .empty)) ∧
      ∀ blacklist whitelist e, (blacklist.readText >>= fun _ => whitelist.readText) = .error e →
        s.load blacklist whitelist = ({ s with lastError := some (.unread e) }, .error e) ∧
          ∀ later, (s.load blacklist whitelist).1.replies later = s.replies later := by
  intro s
  refine ⟨fun hc b hb q => ?_, fun hc => find_of_not_compiled hc, fun blacklist whitelist e he => ?_⟩
  · have hs : Fresh r s := (fresh_new r).run ops
    have ht : Fresh r (rebuilt r b s.patterns) := (fresh_new r).run _
    exact hs.find_eq ht hc (rebuilt_isCompiled hb) (rebuilt_patterns r b _).symm q
  · have hl := load_of_unread (s := s) he
    refine ⟨hl, fun later => ?_⟩
    calc (s.load blacklist whitelist).1.replies later
      _ = { s with lastError := some (.unread e) }.replies later := by rw [hl]
      _ = s.forgetting.replies later := (replies_forgetting _ later).symm
      _ = s.replies later := replies_forgetting s later

/-- Two files that are read and compiled, then a load of which the second file is missing: what was compiled is
still found. After a pattern is added nothing is found. -/
theorem answers_for_its_patterns_unread :
    let file : String → File := fun s => some s.toUTF8
    let ops : List Operation := [.load (file "bad") (file "fine"), .compile .boundless, .load (file "worse") none]
    let s := (new .auto).run ops
    let t := (new .auto).run (ops ++ [.add (.exact 7 "day" "day_blacklist")])
    s.isCompiled = true ∧ s.lastError = some (.unread .missing) ∧
      (s.find (.text "a bad day" none)).2 =
        ((rebuilt .auto .boundless s.patterns).find (.text "a bad day" none)).2 ∧
      (s.find (.text "a bad day" none)).2.against.map (·.text) = ["bad"] ∧
      t.isCompiled = false ∧ t.find (.text "a bad day" none) = (t, .empty) := by
  intro file ops s t
  have hs : s.isCompiled = true := by decide +kernel
  have ht : t.isCompiled = false := by decide +kernel
  exact ⟨hs, by decide +kernel, (answers_for_its_patterns .auto _).1 hs .boundless rfl _, by decide +kernel, ht,
    (answers_for_its_patterns .auto _).2.1 ht _⟩

end Screener

end FraudScreen.Screening
