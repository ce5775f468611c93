import Lc3.CommandLine.Turn

/-!
The program itself: it looks at the files that the arguments name, lets the machine run on the
standard input and writes what is left behind.
-/

namespace Lc3.CommandLine

/-- What stands at a name, as far as it can be read. -/
def look (name : String) : IO (Option Entry) := do
  match ← (IO.FS.readBinFile name).toBaseIO with
  | .ok content => return some (.file content.toList)
  | .error (.inappropriateType _ 21 _) => return some .directory
  | .error _ => return none

def gather (paths : List Path) : IO Files := do
  let mut entries := []
  for (place, name) in paths.flatMap passedPlaces do
    if let some entry ← look name then
      entries := entries ++ [(place, entry)]
  return ⟨entries⟩

def put (texts : List Text) : IO Unit := do
  let output ← IO.getStdout
  for text in texts do
    output.putStr text.visible
  output.flush

/-- Lets a machine run to its end. Of the texts of its next turn, `printed` stand on the standard
output already. -/
partial def converse (isClosed : Bool) (printed : Nat) (machine : Machine) :
    IO (EStateM.Result Interrupt Machine (Option Outcome)) := do
  match Turn.take isClosed machine with
  | .ended output result =>
    put (output.drop printed)
    return result
  | .advanced output machine =>
    put (output.drop printed)
    converse isClosed 0 machine
  | .awaiting output =>
    put (output.drop printed)
    match ← (← IO.getStdin).getLine.toBaseIO with
    | .ok "" => converse true output.length machine
    | .ok line =>
      converse false output.length
        (Turn.supply machine (Text.unifyNewlines line.toList) .whole)
    | .error _ => converse true output.length (Turn.supply machine [] .cutOff)

def explain : Escape → String
  | .logfile error | .program error => error.text
  | .config (.rejected error) => error.message.visible
  | .config .incomparableKeys => "the keys of the configuration cannot be put in order"
  | .config .unwritableKey => "a key of the configuration is too long"
  | .config (.unreachableFile error) => error.text
  | .interrupt (.fault fault) => fault.text
  | .interrupt .endlessString => "a string has no end"
  | .unfinished => "the program does not end"

def writeFiles (before after : Files) : IO Unit := do
  for (place, entry) in after.entries do
    if let .file content := entry then
      unless before.entries.contains (place, entry) do
        IO.FS.writeBinFile (Path.name ⟨place⟩) ⟨content.toArray⟩

end Lc3.CommandLine

open Lc3 Lc3.CommandLine in
def main (arguments : List String) : IO UInt32 := do
  let files ← gather (wantedFiles arguments)
  let report ← match start ⟨files, .ofText "", .utf8⟩ arguments with
    | .error report => do
      put [report.output]
      pure report
    | .ok prepared => do
      pure (prepared.finish (← converse false 0 prepared.machine))
  writeFiles files report.files
  IO.eprint report.errors.visible
  if let .escaped escape := report.ending then
    IO.eprintln (explain escape)
  return report.ending.exitStatus.toUInt32
