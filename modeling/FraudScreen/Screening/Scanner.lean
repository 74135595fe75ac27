import FraudScreen.Screening.Database

/-!
# Scanners

A scanner holds compiled patterns, looks for them in texts and counts the texts it was given.
-/
namespace FraudScreen.Screening

/-- A way to compile and scan. -/
inductive Method where
  | accelerated
  | fallback
deriving DecidableEq, Repr

def Method.name : Method → String
  | accelerated => "accelerated"
  | fallback => "fallback"

/-- Compiled patterns. -/
inductive Database where
  | accelerated (d : Accelerated)
  | fallback (d : Plain)

namespace Database

def compile (m : Method) (ps : List Pattern) : Database :=
  match m with
  | .accelerated => .accelerated (.compile ps)
  | .fallback => .fallback (.compile ps)

/-- The number of compiled patterns. -/
def size : Database → Nat
  | accelerated d => d.size
  | fallback d => d.size

/-- The matches in a text, one at most for each pattern, in order of the patterns. -/
def hits (d : Database) (text : List Char) (category : Option String) : List Hit :=
  match d with
  | accelerated d => d.hits text category
  | fallback d => d.hits text category

/-- What is found in one text. -/
def scan (d : Database) (text : String) (category : Option String) : Findings :=
  .ofHits d.size (d.hits text.toList category)

/-- What is found in several texts, one after another. -/
def scanAll (d : Database) (texts : List String) (category : Option String) : Findings :=
  let found := texts.foldl (fun f t => f.merge (d.scan t category)) Findings.empty
  { found with textsProcessed := texts.length }

end Database

/-- What became of the patterns that were to be compiled. -/
structure CompileReport where
  method : Method
  compiled : Nat
  skipped : Nat
deriving DecidableEq, Repr

/-! ## Builders -/

/-- Why patterns could not be compiled together, in the words of the builder that gave up. -/
inductive CompileFault where
  | literals (cause : String)
  | expressions (cause : String)
deriving DecidableEq, Repr

def CompileFault.message : CompileFault → String
  | literals cause => "pattern compilation failed: literal automaton: " ++ cause
  | expressions cause => "pattern compilation failed: regex set: " ++ cause

/-- The builders of the accelerated way, which take all literals and the sources of all other expressions together. A
builder that gives up says why. -/
structure Builders where
  literals : List String → Option String
  expressions : List (List Char) → Option String

namespace Builders

/-- Builders that never give up. -/
def boundless : Builders := ⟨fun _ => none, fun _ => none⟩

/-- Why patterns cannot be compiled. A builder that is given nothing is not asked. -/
def fault? (b : Builders) (m : Method) (ps : List Pattern) : Option CompileFault :=
  match m with
  | .fallback => none
  | .accelerated =>
    let kept := ps.filter fun p => (Search.ofPattern? p).isSome
    let literals := (kept.filter (·.isPlainLiteral)).map (·.text)
    let sources := (kept.filter (!·.isPlainLiteral)).map (·.source)
    match if literals.isEmpty then none else b.literals literals with
    | some cause => some (.literals cause)
    | none => (if sources.isEmpty then none else b.expressions sources).map .expressions

@[simp] theorem fault?_boundless (m : Method) (ps : List Pattern) : boundless.fault? m ps = none := by
  cases m <;> simp [fault?, boundless]

end Builders

/-! ## Scanning -/

structure Scanner where
  method : Method
  database : Database
  /-- The number of texts scanned. -/
  scans : Nat

namespace Scanner

/-- A scanner without patterns. -/
def new (m : Method) : Scanner := ⟨m, .compile m [], 0⟩

/-- Replaces the patterns. -/
def compile (s : Scanner) (ps : List Pattern) : Scanner × CompileReport :=
  let d := Database.compile s.method ps
  ({ s with database := d }, ⟨s.method, d.size, ps.length - d.size⟩)

/-- Replaces the patterns, unless a builder gives up. -/
def build (s : Scanner) (b : Builders) (ps : List Pattern) : Except CompileFault (Scanner × CompileReport) :=
  match b.fault? s.method ps with
  | some e => .error e
  | none => .ok (s.compile ps)

/-- Scans one text. -/
def scan (s : Scanner) (text : String) (category : Option String) : Scanner × Findings :=
  ({ s with scans := s.scans + 1 }, s.database.scan text category)

/-- Scans texts one after another and adds what is found in each of them to `found`. -/
def scanEach (s : Scanner) (category : Option String) (found : Findings) : List String → Scanner × Findings
  | [] => (s, found)
  | text :: rest =>
    let (s, f) := s.scan text category
    s.scanEach category (found.merge f) rest

/-- Scans several texts. -/
def scanAll (s : Scanner) (texts : List String) (category : Option String) : Scanner × Findings :=
  let (s, found) := s.scanEach category .empty texts
  (s, { found with textsProcessed := texts.length })

/-- A scan changes nothing but the count, so every text is scanned as if it were the only one. -/
theorem scanEach_eq (s : Scanner) (category : Option String) (found : Findings) (texts : List String) :
    s.scanEach category found texts = ({ s with scans := s.scans + texts.length },
      texts.foldl (fun f t => f.merge (s.database.scan t category)) found) := by
  induction texts generalizing s found with
  | nil => rfl
  | cons t rest ih =>
    have hcount : s.scans + 1 + rest.length = s.scans + (t :: rest).length := by
      rw [List.length_cons, Nat.add_assoc, Nat.add_comm 1]
    simp only [scanEach, scan, ih, hcount, List.foldl_cons]

theorem scanAll_eq (s : Scanner) (texts : List String) (category : Option String) :
    s.scanAll texts category =
      ({ s with scans := s.scans + texts.length }, s.database.scanAll texts category) := by
  rw [scanAll, scanEach_eq, Database.scanAll]

def resetScans (s : Scanner) : Scanner := { s with scans := 0 }

end Scanner

end FraudScreen.Screening
