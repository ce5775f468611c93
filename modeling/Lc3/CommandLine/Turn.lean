import Lc3.CommandLine.Session

/-!
Runs whose input comes in while they go on. The machine works in turns on the lines it has been
given; a turn that asks for one line more is put off until that line is there. Putting it off
changes nothing, since it starts again from the same machine.
-/

namespace Lc3.CommandLine

def wantedFiles (arguments : List String) : List Path :=
  match parse quoteText arguments with
  | .ok (.run program options) =>
    (program :: options.config.text?.toList).map Path.ofName ++
      options.logName?.toList.map fun name => (Path.ofName name).collapse
  | .ok .help | .error _ => []

/-- The places that a path passes, with the names that lead there. -/
def passedPlaces (path : Path) : List (List String × String) :=
  (List.range path.parts.length).map fun count =>
    let path : Path := ⟨path.parts.take (count + 1)⟩
    (path.collapse.parts, path.name)

/-- What a turn comes to, with the texts it put out. -/
inductive Turn
  | ended (output : List Text) (result : EStateM.Result Interrupt Machine (Option Outcome))
  | advanced (output : List Text) (machine : Machine)
  /-- A line is missing; the texts are those put out before it was asked for. -/
  | awaiting (output : List Text)

namespace Turn

def length : Nat := 10000

def linesHeld : Source → Nat
  | .stream text _ => text.count '\n'
  | .script entries => entries.length
  | .undecodable => 0

/-- The calls of a console before it is read more than `lines` times. -/
def callsBefore : (lines : Nat) → List ConsoleCall → List ConsoleCall
  | 0, .read _ :: _ => []
  | lines + 1, .read result :: calls => .read result :: callsBefore lines calls
  | lines, .write text failure :: calls => .write text failure :: callsBefore lines calls
  | _, [] => []

/-- One turn of a machine. With `isClosed` no more input can come. -/
def take (isClosed : Bool) (machine : Machine) : Turn :=
  let held := linesHeld machine.terminal.console.source
  let before := machine.terminal.console.calls.length
  let result := Exec.runFor length machine
  let after := match result with
    | .ok _ machine | .error _ machine => machine
  let calls := after.terminal.console.calls
  let made := (calls.take (calls.length - before)).reverse
  let served := callsBefore held made
  if !isClosed && served.length < made.length then
    .awaiting (served.filterMap (·.written?))
  else
    let output := made.filterMap (·.written?)
    match result with
    | .ok none machine => .advanced output machine
    | result => .ended output result

def supply (machine : Machine) (text : List Char) (ending : Utf8.Ending) : Machine :=
  let console := machine.terminal.console
  let source := match console.source with
    | .stream held _ => .stream (held ++ text) ending
    | source => source
  { machine with terminal := { machine.terminal with console := { console with source } } }

end Turn

end Lc3.CommandLine
