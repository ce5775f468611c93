import Lc3.Text.DecimalDigit

/-!
The arguments of the command line: a program and options. An option may be cut short as long as
no other one starts in the same way, and its value may stand behind an equals sign or as the next
argument. Behind a lone double dash everything is taken as it is.
-/

namespace Lc3.CommandLine

/-- What was chosen by an option that takes a value. -/
inductive Choice
  | absent
  /-- The option was given, but its value was a separator, which does not count. -/
  | empty
  | text (value : String)
  deriving DecidableEq, Repr

namespace Choice

def ofValue (value : String) : Choice := if value = "--" then .empty else .text value

def text? : Choice → Option String
  | .text value => some value
  | .absent | .empty => none

end Choice

structure Options where
  config : Choice
  debug : Bool
  logfile : Choice
  console : Bool
  deriving DecidableEq, Repr

def Options.unset : Options := ⟨.absent, false, .absent, false⟩

inductive Request
  | help
  | run (program : String) (options : Options)
  deriving DecidableEq, Repr

inductive Flag
  | help
  | config
  | debug
  | logfile
  | console
  deriving DecidableEq, Repr

namespace Flag

def all : List Flag := [.help, .config, .debug, .logfile, .console]

def spellings : Flag → List String
  | .help => ["-h", "--help"]
  | .config => ["--config"]
  | .debug => ["--debug"]
  | .logfile => ["--logfile"]
  | .console => ["--console"]

def name (flag : Flag) : String := "/".intercalate flag.spellings

def takesValue : Flag → Bool
  | .config | .logfile => true
  | .help | .debug | .console => false

def table : List (String × Flag) :=
  all.flatMap fun flag => flag.spellings.map fun spelling => (spelling, flag)

def ofSpelling? (spelling : String) : Option Flag := table.lookup spelling

end Flag

inductive UsageError
  | ambiguous (given : String) (matching : List String)
  | missingValue (flag : Flag)
  | needlessValue (flag : Flag) (shown : String)
  | missingProgram
  | unrecognized (arguments : List String)
  deriving DecidableEq, Repr

def UsageError.message : UsageError → String
  | .ambiguous given matching =>
    "ambiguous option: " ++ given ++ " could match " ++ ", ".intercalate matching
  | .missingValue flag => "argument " ++ flag.name ++ ": expected one argument"
  | .needlessValue flag shown =>
    "argument " ++ flag.name ++ ": ignored explicit argument " ++ shown
  | .missingProgram => "the following arguments are required: program"
  | .unrecognized arguments => "unrecognized arguments: " ++ " ".intercalate arguments

/-- What an argument is by its looks. -/
inductive Kind
  | plain
  | separator
  | option (flag : Flag) (value : Option String)
  | unknownOption
  deriving DecidableEq, Repr

def splitValue (argument : String) : String × Option String :=
  let chars := argument.toList
  match chars.dropWhile (· != '=') with
  | _ :: value => (String.ofList (chars.takeWhile (· != '=')), some (String.ofList value))
  | [] => (argument, none)

def starts (start text : String) : Bool := start.toList.isPrefixOf text.toList

/-- The options that an argument could mean, with the value it holds. A single dash and a letter
may be followed by the value at once. -/
def candidates (argument : String) : List (String × Flag × Option String) :=
  if starts "--" argument then
    let (start, value) := splitValue argument
    (Flag.table.filter fun (spelling, _) => starts start spelling).map
      fun (spelling, flag) => (spelling, flag, value)
  else
    let letter := String.ofList (argument.toList.take 2)
    Flag.table.filterMap fun (spelling, flag) =>
      if spelling = letter then
        some (spelling, flag, some (String.ofList (argument.toList.drop 2)))
      else if starts argument spelling then some (spelling, flag, none)
      else none

def isDigit (char : Char) : Bool :=
  ('0' ≤ char && char ≤ '9') || (Text.wideDigit? char).isSome

/-- Whether an argument is a negative number, with or without a point. A newline may end it. -/
def isNegativeNumber (argument : String) : Bool :=
  match argument.toList with
  | '-' :: rest =>
    let rest := if rest.getLast? = some '\n' then rest.dropLast else rest
    let fraction := (rest.dropWhile (· != '.')).drop 1
    (rest.takeWhile (· != '.')).all isDigit && fraction.all isDigit &&
      (if rest.contains '.' then fraction ≠ [] else rest ≠ [])
  | _ => false

def classify (argument : String) : Except UsageError Kind :=
  if !starts "-" argument || argument = "-" then .ok .plain
  else
    match Flag.ofSpelling? argument with
    | some flag => .ok (.option flag none)
    | none =>
      let (spelling, value) := splitValue argument
      match Flag.ofSpelling? spelling with
      | some flag => .ok (.option flag value)
      | none =>
        match candidates argument with
        | [(_, flag, value)] => .ok (.option flag value)
        | _ :: _ :: _ =>
          .error (.ambiguous argument ((candidates argument).map Prod.fst))
        | [] =>
          if isNegativeNumber argument || argument.toList.contains ' ' then .ok .plain
          else .ok .unknownOption

/-- Classifies arguments up to a separator; behind it all are plain. -/
def classifyAll : List String → Except UsageError (List (String × Kind))
  | [] => .ok []
  | argument :: rest =>
    if argument = "--" then .ok (("--", .separator) :: rest.map fun argument => (argument, .plain))
    else do return (argument, ← classify argument) :: (← classifyAll rest)

/-- What has been understood so far; arguments without a meaning stand in reverse. -/
structure Progress where
  program : Option String
  options : Options
  extras : List String

def Progress.start : Progress := ⟨none, .unset, []⟩

def Options.set (options : Options) (flag : Flag) (value : String) : Options :=
  match flag with
  | .config => { options with config := .ofValue value }
  | .logfile => { options with logfile := .ofValue value }
  | .debug => { options with debug := true }
  | .console => { options with console := true }
  | .help => options

/-- What is refused of the value of an option that takes none. Behind the short option for help
the same letter may stand any number of times. -/
def refusedPart (argument value : String) : Option String :=
  if starts "--" argument || value = "" then some value
  else
    match value.toList.dropWhile (· == 'h') with
    | [] => none
    | rest => some (String.ofList rest)

/-- Goes through the arguments in order. `quote` shows a value in an error message. -/
def interpret (quote : String → String) (progress : Progress) :
    List (String × Kind) → Except UsageError Request
  | [] =>
    match progress.program, progress.extras with
    | none, _ => .error .missingProgram
    | some program, [] => .ok (.run program progress.options)
    | some _, extras => .error (.unrecognized extras.reverse)
  | (argument, .unknownOption) :: rest =>
    interpret quote { progress with extras := argument :: progress.extras } rest
  | (argument, .option flag (some value)) :: rest =>
    if flag.takesValue then
      interpret quote { progress with options := progress.options.set flag value } rest
    else
      match refusedPart argument value with
      | some part => .error (.needlessValue flag (quote part))
      | none => .ok .help
  | (_, .option flag none) :: rest =>
    if flag = .help then .ok .help
    else if flag.takesValue then
      match rest with
      | (value, .plain) :: rest =>
        interpret quote { progress with options := progress.options.set flag value } rest
      | _ => .error (.missingValue flag)
    else interpret quote { progress with options := progress.options.set flag "" } rest
  | (argument, kind) :: rest =>
    match progress.program, kind, rest with
    | none, .separator, (program, .plain) :: rest =>
      interpret quote { progress with program := some program } rest
    | none, .plain, (_, .separator) :: rest =>
      interpret quote { progress with program := some argument } rest
    | none, .plain, rest => interpret quote { progress with program := some argument } rest
    | _, _, rest => interpret quote { progress with extras := argument :: progress.extras } rest

def parse (quote : String → String) (arguments : List String) : Except UsageError Request := do
  interpret quote .start (← classifyAll arguments)

end Lc3.CommandLine
