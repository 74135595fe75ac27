import FraudScreen.File
import FraudScreen.Rules.Ruleset

/-!
# Rule sources

Where rule documents come from: memory, or a file. A source shows a marker that is new after every change
of its document, so that a change is seen without reading the document. Reading the document and reading
the marker can fail independently of each other.
-/
namespace FraudScreen.Rules

/-- Why rules could not be loaded. -/
inductive LoadError where
  | unreadable (fault : ReadFault)
  | malformed (format : Format)
  | conflict (c : ThresholdConflict)

def LoadError.message : LoadError → String
  | unreadable fault => "IO error: " ++ fault.message
  | malformed .json => "JSON parsing error"
  | malformed .yaml => "YAML parsing error"
  | conflict c => "Validation error: " ++ c.message

/-- What shows whether a document has changed. -/
abbrev Marker := Nat

/-- Where the document is kept. -/
inductive Origin where
  | memory (d : Document)
  | file (format : Format) (content : File)

/-- A source of rule documents. -/
structure Source where
  origin : Origin
  /-- The marker of the present document. -/
  revision : Marker
  documentOffline : Bool
  markerOffline : Bool

namespace Source

/-- A source whose first document is in place. -/
def start (o : Origin) : Source := ⟨o, 1, false, false⟩

/-- Reads the document. -/
def read (s : Source) : Except LoadError Document :=
  if s.documentOffline then .error (.unreadable .offline)
  else match s.origin with
    | .memory d => .ok d
    | .file format content =>
      match content.readText with
      | .error fault => .error (.unreadable fault)
      | .ok text =>
        match Document.parse format text with
        | some d => .ok d
        | none => .error (.malformed format)

/-- Reads the marker; a file that is not there has none. -/
def marker? (s : Source) : Option Marker :=
  if s.markerOffline then none
  else match s.origin with
    | .file _ none => none
    | _ => some s.revision

/-- Reads the document and makes a rule set of it. -/
def load (s : Source) : Except LoadError Ruleset :=
  match s.read with
  | .error e => .error e
  | .ok d =>
    match Ruleset.ofDocument d with
    | .ok r => .ok r
    | .error c => .error (.conflict c)

/-- Puts another document in place. -/
def change (s : Source) (o : Origin) : Source := { s with origin := o, revision := s.revision + 1 }

/-- Replaces the document of a source in memory. -/
def replace (s : Source) (d : Document) : Source :=
  match s.origin with
  | .memory _ => s.change (.memory d)
  | .file _ _ => s

/-- Writes or removes the file of a source on disk. -/
def write (s : Source) (content : File) : Source :=
  match s.origin with
  | .memory _ => s
  | .file format _ => s.change (.file format content)

/-- Takes the document or the marker offline, or back online. -/
def setOffline (s : Source) (document marker : Bool) : Source :=
  { s with documentOffline := document, markerOffline := marker }

end Source

end FraudScreen.Rules
