import Mathlib
import Lc3.CommandLine.Session
import Lc3.Proofs.Configuration
import Lc3.Proofs.Request

/-!
The command line and the library. Called with a program and perhaps a configuration, the command
line refuses what cannot be loaded before it touches the console, and otherwise it does what a run
of the program's bytes under the loaded configuration does.
-/

namespace Lc3.CommandLine

/-! Arguments that name a program and a configuration. -/

def invocation (program : String) (config? : Option String) : List String :=
  match config? with
  | none => [program]
  | some config => [program, "--config", config]

/-- What the library is asked to load for a configuration that may have been named. -/
def configValue : Option String → Value
  | none => .null
  | some name => .text (Text.ofString name)

/-- Only what starts with a dash can be taken for an option. -/
theorem classify_of_undashed {argument : String} (undashed : starts "-" argument = false) :
    classify argument = .ok .plain := by
  rw [classify, undashed]
  rfl

theorem classifyAll_cons {argument : String} {kind : Kind}
    (classified : classify argument = .ok kind) (rest : List String) :
    classifyAll (argument :: rest) = (classifyAll rest).map ((argument, kind) :: ·) := by
  have single : argument ≠ "--" := by
    rintro rfl
    cases classified
  rw [classifyAll, if_neg single, classified]
  cases classifyAll rest <;> rfl

theorem ofValue_of_plain {value : String} (plain : classify value = .ok .plain) :
    Choice.ofValue value = .text value := by
  have single : value ≠ "--" := by
    rintro rfl
    cases plain
  rw [Choice.ofValue, if_neg single]

theorem parse_invocation (quote : String → String) {program : String} {config? : Option String}
    (plain : classify program = .ok .plain)
    (plainConfig : ∀ config ∈ config?, classify config = .ok .plain) :
    ∃ options, parse quote (invocation program config?) = .ok (.run program options) ∧
      options.config.toValue = configValue config? ∧ options.logName? = none := by
  cases config? with
  | none =>
      refine ⟨.unset, ?_, rfl, rfl⟩
      rw [parse, invocation, classifyAll_cons plain, classifyAll]
      rfl
  | some config =>
      have also := plainConfig config rfl
      refine ⟨{ Options.unset with config := .text config }, ?_, rfl, rfl⟩
      rw [parse, invocation, classifyAll_cons plain, classifyAll_cons rfl, classifyAll_cons also,
        classifyAll, ← ofValue_of_plain also]
      rfl

/-! What the program leaves behind. -/

/-- Nothing was run: the console is untouched, and the exit status says so. -/
structure Report.Refuses (report : Report) (refusal : Refusal) (console : Console) : Prop where
  ending : report.ending = .refused refusal
  status : report.ending.exitStatus = 2
  console : report.console = console
  calls : report.console.calls = []

/-- The console is as a run left it, and the program ends as the run did. -/
def Report.Tells (report : Report) :
    EStateM.Result Interrupt Machine (Option Outcome) → Prop
  | .ok (some outcome) machine =>
    report.ending = .finished outcome ∧ report.console = machine.terminal.console ∧
      (report.ending.exitStatus = 1 ↔ outcome = .faulted) ∧
      (report.ending.exitStatus = 0 ↔ outcome = .halted ∨ outcome = .continuing)
  | .ok none machine =>
    report.ending = .escaped .unfinished ∧ report.console = machine.terminal.console
  | .error interrupt machine =>
    report.ending = .escaped (.interrupt interrupt) ∧ report.console = machine.terminal.console

theorem exitStatus_eq_one_iff (outcome : Outcome) :
    outcome.exitStatus = 1 ↔ outcome = .faulted := by
  cases outcome <;> decide

theorem exitStatus_eq_zero_iff (outcome : Outcome) :
    outcome.exitStatus = 0 ↔ outcome = .halted ∨ outcome = .continuing := by
  cases outcome <;> decide

theorem Prepared.finish_tells (prepared : Prepared)
    (result : EStateM.Result Interrupt Machine (Option Outcome)) :
    (prepared.finish result).Tells result := by
  match result with
  | .ok (some outcome) machine =>
      exact ⟨rfl, rfl, exitStatus_eq_one_iff outcome, exitStatus_eq_zero_iff outcome⟩
  | .ok none machine => exact ⟨rfl, rfl⟩
  | .error interrupt machine => exact ⟨rfl, rfl⟩

/-- Building a machine looks at a loaded configuration again and finds it as it is. -/
theorem build_entries (files : Files) (form : ByteForm) (bytes : List UInt8) (config : Config)
    (console : Console) :
    build files (.bytes form bytes) (.mapping config.entries) console =
      match Image.decode bytes with
      | .error error => .error (.image error)
      | .ok image => .ok (Machine.ofConfig image config console) := by
  rw [build, config.load_entries]
  rfl

/-- Loads the configuration and then reads the program. -/
def attempt (files : Files) (console : Console) (program : String) (choice : Choice) :
    Except Ending Machine :=
  (loadConfig files choice).bind (readMachine files console program)

/-- What is left behind after an attempt to get a machine ready. -/
def conclude (options : Options) (files : Files) (log : Option (List String)) (console : Console) :
    Except Ending Machine → Report
  | .error ending => ⟨ending, console, ending.text, files⟩
  | .ok machine => Prepared.finish ⟨options, files, log, machine⟩ (Exec.run machine)

section

variable {setting : Setting} {arguments : List String} {program : String} {options : Options}
  {log : Option (List String)} {files : Files}
  (parsed : parse quoteText arguments = .ok (.run program options))
  (opened : openLog setting.files options = .ok (log, files))

include parsed opened

theorem start_of_opened :
    start setting arguments =
      let console := Console.ofSourceSink setting.source setting.sink
      match attempt files console program options.config with
      | .error ending => .error ⟨ending, console, ending.text, files⟩
      | .ok machine => .ok ⟨options, files, log, machine⟩ := by
  simp only [start, parsed, prepare, opened, attempt, bind, Except.bind, Except.mapError]
  cases loadConfig files options.config with
  | error ending => rfl
  | ok config =>
      simp only []
      cases readMachine files (Console.ofSourceSink setting.source setting.sink) program config <;>
        rfl

/-- Once the log file is open, a call does what the rest of its arguments ask for. -/
theorem session_of_opened :
    session setting arguments =
      conclude options files log (Console.ofSourceSink setting.source setting.sink)
        (attempt files (Console.ofSourceSink setting.source setting.sink) program
          options.config) := by
  rw [session, start_of_opened parsed opened]
  simp only []
  cases attempt files (Console.ofSourceSink setting.source setting.sink) program options.config <;>
    rfl

end

theorem openLog_of_unlogged {options : Options} (unlogged : options.logName? = none)
    (files : Files) : openLog files options = .ok (none, files) := by
  rw [openLog, unlogged]

section

variable {setting : Setting} {program : String} {config? : Option String}
  (plain : classify program = .ok .plain)
  (plainConfig : ∀ config ∈ config?, classify config = .ok .plain)

include plain plainConfig

theorem session_of_rejected {error : ConfigError}
    (rejected : Config.load setting.files (configValue config?) = .error (.rejected error)) :
    (session setting (invocation program config?)).Refuses (.config error)
      (Console.ofSourceSink setting.source setting.sink) := by
  obtain ⟨options, parsed, choice, unlogged⟩ := parse_invocation quoteText plain plainConfig
  rw [session_of_opened parsed (openLog_of_unlogged unlogged _), attempt, loadConfig, choice,
    rejected]
  exact ⟨rfl, rfl, rfl, rfl⟩

theorem session_of_failure {failure : ConfigFailure} (other : ∀ error, failure ≠ .rejected error)
    (failed : Config.load setting.files (configValue config?) = .error failure) :
    (session setting (invocation program config?)).ending = .escaped (.config failure) := by
  obtain ⟨options, parsed, choice, unlogged⟩ := parse_invocation quoteText plain plainConfig
  rw [session_of_opened parsed (openLog_of_unlogged unlogged _), attempt, loadConfig, choice,
    failed]
  cases failure with
  | rejected error => exact absurd rfl (other error)
  | incomparableKeys => rfl
  | unwritableKey => rfl
  | unreachableFile error => rfl

section

variable {config : Config}
  (loaded : Config.load setting.files (configValue config?) = .ok config)

include loaded

theorem session_of_unread {error : FileError}
    (unread : setting.files.read (Path.ofName program) = .error error) :
    let report := session setting (invocation program config?)
    let console := Console.ofSourceSink setting.source setting.sink
    (error ≠ .nullInName →
      report.Refuses (.program error (Path.ofName program).name) console) ∧
    (error = .nullInName →
      report.ending = .escaped (.program .nullInName) ∧ report.console = console) := by
  obtain ⟨options, parsed, choice, unlogged⟩ := parse_invocation quoteText plain plainConfig
  rw [session_of_opened parsed (openLog_of_unlogged unlogged _), attempt, loadConfig, choice,
    loaded]
  simp only [Except.bind, readMachine, unread]
  cases error with
  | nullInName => exact ⟨fun named => absurd rfl named, fun _ => ⟨rfl, rfl⟩⟩
  | notFound | notDirectory | isDirectory | nameTooLong =>
      exact ⟨fun _ => ⟨rfl, rfl, rfl, rfl⟩, nofun⟩

theorem session_of_read {bytes : List UInt8}
    (read : setting.files.read (Path.ofName program) = .ok bytes) :
    let report := session setting (invocation program config?)
    let console := Console.ofSourceSink setting.source setting.sink
    match Image.decode bytes with
    | .error error => report.Refuses (.image error) console
    | .ok _ => ∃ result,
        runImage setting.files (.bytes .constant bytes) (.mapping config.entries) console =
          .ok result ∧ report.Tells result := by
  obtain ⟨options, parsed, choice, unlogged⟩ := parse_invocation quoteText plain plainConfig
  rw [session_of_opened parsed (openLog_of_unlogged unlogged _), attempt, loadConfig, choice,
    loaded]
  simp only [Except.bind, readMachine, read, runImage, build_entries]
  cases Image.decode bytes with
  | error error => exact ⟨rfl, rfl, rfl, rfl⟩
  | ok image => exact ⟨_, rfl, Prepared.finish_tells _ _⟩

theorem session_of_loaded (failure : ConfigFailure) :
    (session setting (invocation program config?)).ending ≠ .escaped (.config failure) := by
  cases read : setting.files.read (Path.ofName program) with
  | error error =>
      obtain ⟨refuses, escapes⟩ := session_of_unread plain plainConfig loaded read
      by_cases null : error = .nullInName
      · rw [(escapes null).1]
        simp
      · rw [(refuses null).ending]
        simp
  | ok bytes =>
      have told := session_of_read plain plainConfig loaded read
      cases decoded : Image.decode bytes with
      | error error =>
          rw [decoded] at told
          rw [told.ending]
          simp
      | ok image =>
          rw [decoded] at told
          obtain ⟨result, _, tells⟩ := told
          intro escaped
          match result with
          | .ok (some outcome) machine | .ok none machine | .error interrupt machine =>
              rw [tells.1] at escaped
              cases escaped

end

theorem session_never_escapes_rejection (error : ConfigError) :
    (session setting (invocation program config?)).ending ≠
      .escaped (.config (.rejected error)) := by
  cases loaded : Config.load setting.files (configValue config?) with
  | error failure =>
      by_cases rejected : ∃ error, failure = .rejected error
      · obtain ⟨error, rfl⟩ := rejected
        rw [(session_of_rejected plain plainConfig loaded).ending]
        simp
      · have other : ∀ error, failure ≠ .rejected error := fun error same => rejected ⟨error, same⟩
        rw [session_of_failure plain plainConfig other loaded]
        simp [other]
  | ok config => exact session_of_loaded plain plainConfig loaded (.rejected error)

end

/-- What cannot be loaded is refused with the console untouched, the configuration before the
program; otherwise a call does what a run of the program's bytes does. -/
theorem session_runs_as_library {program : String} {config? : Option String}
    (plain : classify program = .ok .plain)
    (plainConfig : ∀ config ∈ config?, classify config = .ok .plain) (setting : Setting) :
    let report := session setting (invocation program config?)
    let console := Console.ofSourceSink setting.source setting.sink
    let path := Path.ofName program
    (∀ error, Config.load setting.files (configValue config?) = .error (.rejected error) →
      report.Refuses (.config error) console) ∧
    (∀ config, Config.load setting.files (configValue config?) = .ok config →
      (∀ error, setting.files.read path = .error error →
        (error ≠ .nullInName → report.Refuses (.program error path.name) console) ∧
        (error = .nullInName →
          report.ending = .escaped (.program .nullInName) ∧ report.console = console)) ∧
      (∀ bytes error, setting.files.read path = .ok bytes → Image.decode bytes = .error error →
        report.Refuses (.image error) console) ∧
      (∀ bytes image, setting.files.read path = .ok bytes → Image.decode bytes = .ok image →
        ∃ result, runImage setting.files (.bytes .constant bytes) (.mapping config.entries)
          console = .ok result ∧ report.Tells result)) ∧
    ∀ error, report.ending ≠ .escaped (.config (.rejected error)) := by
  intro report console path
  refine ⟨fun error => session_of_rejected plain plainConfig, fun config loaded => ⟨?_, ?_, ?_⟩,
    session_never_escapes_rejection plain plainConfig⟩
  · intro error unread
    exact session_of_unread plain plainConfig loaded unread
  · intro bytes error read undecoded
    have told := session_of_read plain plainConfig loaded read
    rwa [undecoded] at told
  · intro bytes image read decoded
    have told := session_of_read plain plainConfig loaded read
    rwa [decoded] at told

/-! A program that halts at once, once under a plain name and once under that of an option. -/

def haltingImage : List UInt8 := [0, 0, 0xF0, 0x25]

def haltingSetting : Setting where
  files := ⟨[(["p"], .file haltingImage), (["-h"], .file haltingImage),
    (["c"], .file [0x7B, 0x7D])]⟩
  source := .ofText ""
  sink := .full

def haltingMachine : Machine :=
  .ofConfig ⟨0, [0xF025]⟩ .initial (.ofSourceSink (.ofText "") .full)

theorem run_haltingImage :
    ∃ machine, runImage haltingSetting.files (.bytes .constant haltingImage)
        (.mapping Config.initial.entries) (.ofSourceSink (.ofText "") .full) =
          .ok (.ok (some .halted) machine) ∧
      machine.terminal.console.output = Text.ofString "HALTing execution\n" := by
  have goes : ¬haltingMachine.Stops := by
    rintro (ended | top | ⟨_, ⟨⟩, _⟩)
    · exact ended rfl
    · exact absurd top (by decide)
  obtain ⟨after, step, output⟩ : ∃ after, Exec.step haltingMachine = .ok .halted after ∧
      after.terminal.console.output = Text.ofString "HALTing execution\n" := ⟨_, rfl, rfl⟩
  refine ⟨after, ?_, output⟩
  rw [runImage, build_entries]
  exact congrArg Except.ok (Exec.run_of_ending_step goes step nofun)

theorem named_program_runs_as_library :
    classify "p" = .ok .plain ∧ (∀ config ∈ some "c", classify config = .ok .plain) ∧
    ∃ machine,
      runImage haltingSetting.files (.bytes .constant haltingImage)
        (.mapping Config.initial.entries) (.ofSourceSink (.ofText "") .full) =
          .ok (.ok (some .halted) machine) ∧
      (session haltingSetting ["p", "--config", "c"]).ending = .finished .halted ∧
      (session haltingSetting ["p", "--config", "c"]).console = machine.terminal.console := by
  have plain : classify "p" = .ok .plain := classify_of_undashed rfl
  have plainConfig : ∀ config ∈ some "c", classify config = .ok .plain := by
    rintro _ ⟨⟩
    exact classify_of_undashed rfl
  have empty : Config.entriesOfFile haltingSetting.files "c" = .ok [] := by cbv
  have loaded : Config.load haltingSetting.files (configValue (some "c")) = .ok Config.initial := by
    simp only [configValue, Config.load, Text.toString?_ofString, empty]
    rfl
  have read : haltingSetting.files.read (Path.ofName "p") = .ok haltingImage := by cbv
  obtain ⟨_, accepted, _⟩ := session_runs_as_library plain plainConfig haltingSetting
  obtain ⟨_, _, runs⟩ := accepted Config.initial loaded
  obtain ⟨result, ran, told⟩ := runs haltingImage ⟨0, [0xF025]⟩ read rfl
  obtain ⟨machine, halted, _⟩ := run_haltingImage
  obtain rfl := Except.ok.inj (halted.symm.trans ran)
  exact ⟨plain, plainConfig, machine, halted, told.1, told.2.1⟩

/-- A program whose name is an option for help is not run: the help is shown. -/
theorem program_named_help_is_not_run :
    Config.load haltingSetting.files (configValue none) = .ok Config.initial ∧
    haltingSetting.files.read (Path.ofName "-h") = .ok haltingImage ∧
    ∃ machine,
      runImage haltingSetting.files (.bytes .constant haltingImage)
        (.mapping Config.initial.entries) (.ofSourceSink (.ofText "") .full) =
          .ok (.ok (some .halted) machine) ∧
      machine.terminal.console.output = Text.ofString "HALTing execution\n" ∧
      (session haltingSetting (invocation "-h" none)).ending = .helped ∧
      ¬(session haltingSetting (invocation "-h" none)).Tells (.ok (some .halted) machine) := by
  have read : haltingSetting.files.read (Path.ofName "-h") = .ok haltingImage := by cbv
  have helped : (session haltingSetting (invocation "-h" none)).ending = .helped := rfl
  obtain ⟨machine, halted, output⟩ := run_haltingImage
  refine ⟨rfl, read, machine, halted, output, helped, ?_⟩
  rintro ⟨finished, _⟩
  rw [helped] at finished
  cases finished

end Lc3.CommandLine
