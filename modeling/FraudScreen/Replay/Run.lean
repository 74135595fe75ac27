import FraudScreen.Replay.Settings
import FraudScreen.Replay.Submission

/-!
# Runs

A run of the program from its start to its end. It prints a record for every transaction that it scores
and ends with a code: zero at the end of the input, one if it could not start or read on, two if its
arguments were wrong. Records printed before a failure stay.
-/
namespace FraudScreen.Replay

open Payment (Arrival DecisionRecord)
open Scoring (Scorer)

/-- The files that a program can read, by path. -/
abbrev Files := String → File

/-! ## Start -/

/-- Why a run could not start. -/
inductive StartFault where
  | rules (path : String) (e : Rules.LoadError)
  /-- Of the two pattern lists only one was given. -/
  | loneList
  | lists (fault : ReadFault)
  | input (path : String)

def StartFault.message : StartFault → String
  | rules path e => "loading rules from " ++ path ++ ": " ++ e.message
  | loneList => "blacklist and whitelist paths must be given together"
  | lists fault => "loading pattern files: " ++ fault.message
  | input path => "opening input " ++ path ++ ": " ++ ReadFault.missing.message

/-- Loads the rules. -/
def loadRules (s : Settings) (scorer : Scorer) : Except StartFault Scorer :=
  match scorer.reload with
  | (scorer, .ok _) => .ok scorer
  | (_, .error e) => .error (.rules s.rulesPath e)

/-- Starts to watch the rules, if that is wanted. -/
def watchRules (s : Settings) (scorer : Scorer) : Scorer :=
  match s.pollInterval with
  | some interval =>
    { scorer with rules := scorer.rules.step (.enablePolling interval (some .returned)) }
  | none => scorer

/-- Loads the pattern lists, which are given together or not at all. -/
def loadLists (s : Settings) (files : Files) (scorer : Scorer) : Except StartFault Scorer :=
  match s.blacklistPath, s.whitelistPath with
  | some black, some white =>
    match scorer.screener.load (files black) (files white) with
    | (screener, .ok ()) => .ok { scorer with screener }
    | (_, .error fault) => .error (.lists fault)
  | none, none => .ok scorer
  | _, _ => .error .loneList

/-- A scorer ready for the first transaction. All patterns can be compiled together. -/
def prepare (s : Settings) (files : Files) : Except StartFault Scorer := do
  let origin := .file (.ofPath s.rulesPath) (files s.rulesPath)
  let scorer ← loadRules s { Scorer.start origin s.backend with modelVersion := s.modelVersion }
  let scorer ← loadLists s files (watchRules s scorer)
  return { scorer with screener := (scorer.screener.compile .boundless).1 }

/-! ## Lines -/

/-- The lines of a text given in bytes. What follows the last line feed is a line unless it is empty. -/
def byteLines (bytes : ByteArray) : List ByteArray :=
  let pieces := bytes.toList.splitOn 10
  (if pieces.getLast? = some [] then pieces.dropLast else pieces).map fun p => ⟨p.toArray⟩

/-- How a run ends, and what it printed. -/
structure Outcome where
  code : Nat
  records : List DecisionRecord

/-- The code of a run that came to the end of its input. -/
def completed : Nat := 0

/-- The code of a run that could not start or read on. -/
def failed : Nat := 1

/-- The code of a run whose arguments were wrong. -/
def misused : Nat := 2

/-- The code of a run in which the evaluator broke down. -/
def brokeDown : Nat := 101

/-- A record before those of the rest of a run. -/
def Outcome.after (r : DecisionRecord) (o : Outcome) : Outcome := { o with records := r :: o.records }

/-- Scores lines one after another; `arrivals` says how the line with a number arrives. -/
def runLines (arrivals : Nat → Arrival) (number : Nat) (s : Scorer) : List ByteArray → Outcome
  | [] => ⟨completed, []⟩
  | line :: rest =>
    match String.fromUTF8? line with
    | none => ⟨failed, []⟩
    | some text =>
      match scoreLine s (arrivals number) text with
      | (s, .skipped) => runLines arrivals (number + 1) s rest
      | (s, .decided r) => (runLines arrivals (number + 1) s rest).after r
      | (_, .crashed) => ⟨brokeDown, []⟩

/-! ## The whole run -/

/-- What a run finds around it. -/
structure Surroundings where
  args : List String
  env : Environment
  files : Files
  standardInput : ByteArray
  arrivals : Nat → Arrival

/-- The bytes from which transactions are read. -/
def Surroundings.inputOf (w : Surroundings) (s : Settings) : File :=
  if s.readsStandardInput then some w.standardInput else w.files s.input

/-- The run with settings that were understood. -/
def runWith (w : Surroundings) (s : Settings) : Outcome :=
  match prepare s w.files with
  | .error _ => ⟨failed, []⟩
  | .ok scorer =>
    match w.inputOf s with
    | none => ⟨failed, []⟩
    | some bytes => runLines w.arrivals 0 scorer (byteLines bytes)

def run (w : Surroundings) : Outcome :=
  match Settings.read w.env w.args with
  | .error .helpAsked => ⟨completed, []⟩
  | .error _ => ⟨misused, []⟩
  | .ok s => runWith w s

end FraudScreen.Replay
