import FraudScreen.Replay.Run
import Std.Time.DateTime.Timestamp

/-!
# Command line

Scores the transactions of a file or of the standard input and prints a record for each. The rules are
looked at again from time to time, if that is wanted. This module reads, waits and prints; what is
computed is in the modules it imports.
-/
namespace FraudScreen.Replay

open Payment (Arrival DatedRecord)
open Scoring (Scorer)

/-- The present moment. -/
def presentMoment : IO Calendar.Timestamp := do
  let t ← Std.Time.Timestamp.now
  return ⟨t.val.second.val, t.val.nano.val.toNat⟩

/-- A random identifier. -/
def randomId : IO String := do
  let group (width : Nat) : IO String := do
    return String.ofList (← (List.replicate width ()).mapM fun _ => do
      return Nat.digitChar (← IO.rand 0 15))
  let variant := Nat.digitChar (← IO.rand 8 11)
  return (← group 8) ++ "-" ++ (← group 4) ++ "-4" ++ (← group 3) ++ "-" ++ variant.toString ++
    (← group 3) ++ "-" ++ (← group 12)

/-- The content of a file, if it can be read. -/
def readFile (path : String) : IO File := do
  try return some (← IO.FS.readBinFile path)
  catch _ => return none

/-- The values of the variables that settings come from. -/
def readEnvironment : IO Environment := do
  let values ← Setting.all.mapM fun s => do
    return (s.variableName, ← IO.getEnv s.variableName)
  return fun name => (values.lookup name).bind id

/-- What a loop over lines keeps. -/
structure Progress where
  scorer : Scorer
  rules : File
  polledAt : Nat

/-- Looks at the rules again if it is time. -/
def Progress.refresh (p : Progress) (s : Settings) : IO Progress := do
  match s.pollInterval with
  | none => return p
  | some interval =>
    let now ← IO.monoMsNow
    if now < p.polledAt + interval then return p
    let content ← readFile s.rulesPath
    let session := p.scorer.rules
    let session := if content == p.rules then session else session.step (.write content)
    return ⟨{ p.scorer with rules := session.step .poll }, content, now⟩

/-- Scores one line and prints its record; answers the code of the end of the run, if it ends here. -/
def Progress.takeLine (p : Progress) (s : Settings) (line : ByteArray) : IO (Progress × Option Nat) := do
  let p ← p.refresh s
  match String.fromUTF8? line with
  | none => return (p, some failed)
  | some text =>
    let start ← IO.monoNanosNow
    let arrival : Arrival := ⟨← randomId, ← presentMoment⟩
    match scoreLine p.scorer arrival text with
    | (scorer, .skipped) => return ({ p with scorer }, none)
    | (scorer, .crashed) => return ({ p with scorer }, some brokeDown)
    | (scorer, .decided record) =>
      let latency := (← IO.monoNanosNow) - start
      let dated : DatedRecord := ⟨record, latency.toFloat / 1000000, ← presentMoment⟩
      let out ← IO.getStdout
      out.putStrLn dated.toJson
      out.flush
      return ({ p with scorer }, none)

/-- Scores the lines of a stream, of which `buffer` was read already. -/
partial def takeLines (p : Progress) (s : Settings) (input : IO.FS.Stream) (buffer : ByteArray) :
    IO Nat := do
  match buffer.findIdx? (· == 10) with
  | some i =>
    let (p, code) ← p.takeLine s (buffer.extract 0 i)
    match code with
    | some code => return code
    | none => takeLines p s input (buffer.extract (i + 1) buffer.size)
  | none =>
    let more ← input.read 65536
    if more.isEmpty then
      if buffer.isEmpty then return completed
      return ((← p.takeLine s buffer).2).getD completed
    else takeLines p s input (buffer ++ more)

/-- The stream of transactions. -/
def openInput (s : Settings) : IO (Option IO.FS.Stream) := do
  if s.readsStandardInput then return some (← IO.getStdin)
  try return some (IO.FS.Stream.ofHandle (← IO.FS.Handle.mk s.input .read))
  catch _ => return none

/-- Says why a run could not start. -/
def refuse (f : StartFault) : IO Nat := do
  (← IO.getStderr).putStrLn ("Error: " ++ f.message)
  return failed

/-- The run with settings that were understood. -/
def runSettings (s : Settings) : IO Nat := do
  let paths := s.rulesPath :: (s.blacklistPath.toList ++ s.whitelistPath.toList)
  let contents ← paths.mapM fun path => do return (path, ← readFile path)
  let files : Files := fun path => (contents.lookup path).bind id
  match prepare s files with
  | .error f => refuse f
  | .ok scorer =>
    match ← openInput s with
    | none => refuse (.input s.input)
    | some input => takeLines ⟨scorer, files s.rulesPath, ← IO.monoMsNow⟩ s input .empty

/-- What can be said on the command line. -/
def usage : String :=
  "Options:\n" ++ String.join (Setting.all.map fun s =>
    "  --" ++ s.flag ++ (if s.takesValue then " <VALUE>" else "") ++ "\n")

end FraudScreen.Replay

open FraudScreen.Replay in
/-- Runs the program and answers its code. -/
def main (args : List String) : IO UInt32 := do
  match Settings.read (← readEnvironment) args with
  | .error .helpAsked =>
    IO.print usage
    return completed.toUInt32
  | .error _ =>
    (← IO.getStderr).putStr usage
    return misused.toUInt32
  | .ok s => return (← runSettings s).toUInt32
