import Lc3.CommandLine.Logging
import Lc3.CommandLine.Usage
import Lc3.Run

/-!
A call of the program from the command line, from its arguments to what it leaves behind. The log
file is emptied before any other file is read, then the configuration is loaded, then the program.
-/

namespace Lc3.CommandLine

structure Setting where
  files : Files
  source : Source
  sink : Sink

/-- A failure that ends the program without its own doing. -/
inductive Escape
  | logfile (error : FileError)
  | config (failure : ConfigFailure)
  | program (error : FileError)
  | interrupt (interrupt : Interrupt)
  /-- The program did not end in the time that one can wait. -/
  | unfinished
  deriving DecidableEq, Repr

/-- Why nothing is run although the arguments make sense. -/
inductive Refusal
  | config (error : ConfigError)
  | program (error : FileError) (name : String)
  | image (error : ImageError)
  deriving DecidableEq, Repr

def Refusal.message : Refusal → Text
  | .config error => Text.ofString "Bad config: " ++ error.message
  | .program error name => Text.ofString ("Cannot read program: " ++ error.describe name)
  | .image error => Text.ofString ("Bad program image: " ++ error.message)

inductive Ending
  | helped
  | misused (error : UsageError)
  | refused (refusal : Refusal)
  | finished (outcome : Outcome)
  | escaped (escape : Escape)
  deriving DecidableEq, Repr

def Ending.exitStatus : Ending → Nat
  | .helped => 0
  | .misused _ | .refused _ => 2
  | .finished outcome => outcome.exitStatus
  | .escaped _ => 1

/-- What the program leaves behind. The console is as it was left, with all calls made of it. -/
structure Report where
  ending : Ending
  console : Console
  errors : Text
  files : Files

def Report.output (report : Report) : Text := report.console.output

/-- A machine that is ready to run, and what remains to be done when it has stopped. -/
structure Prepared where
  options : Options
  files : Files
  /-- Where the log file stands. -/
  log : Option (List String)
  machine : Machine

def quoteText (text : String) : String := String.ofList (Text.quote (Text.ofString text))

def openLog (files : Files) (options : Options) :
    Except FileError (Option (List String) × Files) :=
  match options.logName? with
  | none => .ok (none, files)
  | some name => do
    let (place, files) ← files.create (Path.ofName name).collapse
    return (some place, files)

/-- What the choice of a configuration asks to be loaded. -/
def Choice.toValue : Choice → Value
  | .absent => .null
  | .empty => .list []
  | .text name => .text (Text.ofString name)

def loadConfig (files : Files) (choice : Choice) : Except Ending Config :=
  match Config.load files choice.toValue with
  | .ok config => .ok config
  | .error (.rejected error) => .error (.refused (.config error))
  | .error failure => .error (.escaped (.config failure))

/-- Reads the program and builds a machine for it, which looks at the configuration once more. -/
def readMachine (files : Files) (console : Console) (program : String) (config : Config) :
    Except Ending Machine :=
  let path := Path.ofName program
  match files.read path with
  | .error .nullInName => .error (.escaped (.program .nullInName))
  | .error error => .error (.refused (.program error path.name))
  | .ok bytes =>
    match build files (.bytes .constant bytes) (.mapping config.entries) console with
    | .ok machine => .ok machine
    | .error (.image error) => .error (.refused (.image error))
    | .error (.config failure) => .error (.escaped (.config failure))

/-- Loads what the options name. If that fails, gives how the program ends, with the files as they
are then. -/
def prepare (files : Files) (console : Console) (program : String) (options : Options) :
    Except (Ending × Files) Prepared := do
  let (log, files) ← (openLog files options).mapError fun error =>
    (.escaped (.logfile error), files)
  let config ← (loadConfig files options.config).mapError (·, files)
  let machine ← (readMachine files console program config).mapError (·, files)
  return ⟨options, files, log, machine⟩

/-- What is left behind when the machine has stopped as `machine`, with `messages` logged. -/
def Prepared.report (prepared : Prepared) (machine : Machine) (ending : Ending)
    (messages : List Message) : Report where
  ending
  console := machine.terminal.console
  errors := Text.ofString (errorText prepared.options messages)
  files :=
    match prepared.log with
    | none => prepared.files
    | some place =>
      prepared.files.putAt place (fileText prepared.options messages).toUTF8.toList

def Prepared.finish (prepared : Prepared) :
    EStateM.Result Interrupt Machine (Option Outcome) → Report
  | .ok (some outcome) machine =>
    prepared.report machine (.finished outcome)
      (machine.terminal.log.reverse ++ [.finished outcome machine.tick])
  | .ok none machine =>
    prepared.report machine (.escaped .unfinished) machine.terminal.log.reverse
  | .error interrupt machine =>
    prepared.report machine (.escaped (.interrupt interrupt)) machine.terminal.log.reverse

/-- What is written to the standard error stream at an ending without a run. -/
def Ending.text : Ending → Text
  | .misused error => Text.ofString (complaint error)
  | .refused refusal => refusal.message ++ Text.ofString "\n"
  | .helped | .finished _ | .escaped _ => []

def showHelp (files : Files) (console : Console) : Report :=
  match console.write (Text.ofString help) with
  | (none, console) => ⟨.helped, console, [], files⟩
  | (some fault, console) => ⟨.escaped (.interrupt (.fault fault)), console, [], files⟩

/-- Gets ready what the arguments ask for. If nothing is to be run, that is all. -/
def start (setting : Setting) (arguments : List String) : Except Report Prepared :=
  let console := Console.ofSourceSink setting.source setting.sink
  match parse quoteText arguments with
  | .error error =>
    let ending := Ending.misused error
    .error ⟨ending, console, ending.text, setting.files⟩
  | .ok .help => .error (showHelp setting.files console)
  | .ok (.run program options) =>
    (prepare setting.files console program options).mapError fun (ending, files) =>
      ⟨ending, console, ending.text, files⟩

def session (setting : Setting) (arguments : List String) : Report :=
  match start setting arguments with
  | .error report => report
  | .ok prepared => prepared.finish (Exec.run prepared.machine)

end Lc3.CommandLine
