import FraudScreen.Screening.Scanner

/-!
# Workspaces

All scans on a thread share a workspace. An accelerated scan marks the patterns that it has reported with its own
number, so no marks have to be taken away before the next scan, whatever patterns that one is about.
-/
namespace FraudScreen.Screening

/-- What the scans on a thread leave behind. -/
structure Workspace where
  /-- The number of the last accelerated scan. -/
  scan : Nat
  /-- By the number of a pattern, the last scan that reported a pattern with that number. -/
  marks : Array Nat
  /-- The places that the last accelerated scan found. -/
  places : List Place

/-- A scan of a text for compiled patterns. -/
structure Scan where
  database : Database
  text : String
  category : Option String

namespace Workspace

/-- The workspace of a thread without scans. -/
def start : Workspace := ⟨0, #[], []⟩

/-- The marks, with room for those of `n` patterns. -/
def room (n : Nat) (marks : Array Nat) : Array Nat := marks ++ Array.replicate (n - marks.size) 0

/-- Goes through the reports of a scan in turn: skips those of patterns that it has marked, marks the others, and
keeps the places of those that pass the filter. -/
def report (admits : Nat → Bool) (scan : Nat) : List Place → Array Nat → List Place × Array Nat
  | [], marks => ([], marks)
  | p :: rest, marks =>
    if marks[p.index]? = some scan then report admits scan rest marks
    else
      let (kept, marks) := report admits scan rest (marks.setIfInBounds p.index scan)
      (if admits p.index then p :: kept else kept, marks)

/-- Scans a text on the thread. A plain scan needs no workspace. -/
def find (w : Workspace) (s : Scan) : Workspace × Findings :=
  match s.database with
  | .accelerated d =>
    let text := s.text.toList
    let scan := w.scan + 1
    let (literals, marks) := report (d.admits s.category) scan (sweep d.literals [] 0 text) (room d.size w.marks)
    let places := Accelerated.inOrder (literals ++ d.regexPlaces text s.category)
    (⟨scan, marks, places⟩, .ofHits d.size (d.hitsAt text places))
  | .fallback _ => (w, s.database.scan s.text s.category)

/-- The workspace after several scans. -/
def after (w : Workspace) : List Scan → Workspace
  | [] => w
  | s :: rest => (w.find s).1.after rest

end Workspace

end FraudScreen.Screening
