import Lc3.Proofs.Lockstep

/-!
Failures of the console's device. A machine whose console fails computes what it would compute if
every failing read had yielded the empty line and every write had been taken.
-/

namespace Lc3

/-- What a read counts as: one that fails, as a read of the empty line. -/
def Reading.healed : Reading → Reading
  | .failure _ => .line ""
  | .line text => .line text

namespace ConsoleCall

def healed : ConsoleCall → ConsoleCall
  | .read reading => .read reading.healed
  | .write text _ => .write text none

def warning? : ConsoleCall → Option Message
  | .read (.failure fault) => some (.readFailed fault)
  | .write _ (some fault) => some (.writeFailed fault)
  | .read (.line _) | .write _ none => none

def attempted? : ConsoleCall → Option (Text × Option Fault)
  | .write text failure => some (text, failure)
  | .read _ => none

end ConsoleCall

def Console.writes (console : Console) : List (Text × Option Fault) :=
  (console.calls.filterMap (·.attempted?)).reverse

/-- The sink fails in no way that is passed on. -/
def Sink.Forgiving : Sink → Prop
  | .script outcomes => ∀ fault, some fault ∈ outcomes → fault.absorbedByWrite = true
  | .full | .charset _ | .closed => True

theorem Sink.Forgiving.write {sink : Sink} (forgiving : sink.Forgiving) (text : Text) :
    (∀ fault, (sink.write text).1 = some fault → fault.absorbedByWrite = true) ∧
      (sink.write text).2.Forgiving := by
  cases sink with
  | full => exact ⟨nofun, trivial⟩
  | charset bound =>
      refine ⟨?_, trivial⟩
      intro fault failed
      simp only [Sink.write] at failed
      split at failed
      · cases failed
      · cases failed
        rfl
  | closed =>
      refine ⟨?_, trivial⟩
      intro fault failed
      cases failed
      rfl
  | script outcomes =>
      cases outcomes with
      | nil => exact ⟨nofun, forgiving⟩
      | cons outcome outcomes =>
          refine ⟨?_, ?_⟩
          · intro fault failed
            exact forgiving fault (List.mem_cons.mpr (.inl failed.symm))
          · intro fault member
            exact forgiving fault (List.mem_cons_of_mem outcome member)

theorem Message.level_of_isFailure (message : Message) (failure : message.isFailure = true) :
    message.level = .warning := by
  cases message <;> first | rfl | cases failure

/-- One terminal is the other one without its failures. -/
structure HealedTo (failing ideal : Terminal) : Prop where
  script : ∃ entries, failing.console.source = .script entries ∧
    ideal.console.source = .script (entries.map Reading.healed) ∧
    ∀ fault, .failure fault ∈ entries → fault.absorbedByRead = true
  forgiving : failing.console.sink.Forgiving
  full : ideal.console.sink = .full
  calls : ideal.console.calls = failing.console.calls.map ConsoleCall.healed
  log : ideal.log = failing.log.filter (!·.isFailure)
  warnings : failing.log.filter (·.isFailure) = failing.console.calls.filterMap (·.warning?)

namespace HealedTo

theorem readChar {failing ideal : Terminal} (healed : HealedTo failing ideal) :
    Agree HealedTo (Terminal.readChar failing) (Terminal.readChar ideal) := by
  obtain ⟨⟨source, sink, calls⟩, log⟩ := failing
  obtain ⟨⟨source', sink', calls'⟩, log'⟩ := ideal
  obtain ⟨⟨entries, rfl, rfl, readable⟩, forgiving, rfl, rfl, rfl, warnings⟩ := healed
  cases entries with
  | nil => exact ⟨rfl, ⟨[], rfl, rfl, nofun⟩, forgiving, rfl, rfl, rfl, warnings⟩
  | cons entry entries =>
      have later : ∀ fault, .failure fault ∈ entries → fault.absorbedByRead = true :=
        fun fault member => readable fault (List.mem_cons_of_mem entry member)
      cases entry with
      | line text => exact ⟨rfl, ⟨entries, rfl, rfl, later⟩, forgiving, rfl, rfl, rfl, warnings⟩
      | failure fault =>
          have absorbed := readable fault List.mem_cons_self
          simp only [Terminal.readChar, Console.readLine, Source.readLine, absorbed, if_true,
            List.map_cons, Reading.healed]
          refine ⟨rfl, ⟨entries, rfl, rfl, later⟩, forgiving, rfl, rfl, ?_, ?_⟩
          · simp [Terminal.note, Message.isFailure]
          · simpa [Terminal.note, Message.isFailure, ConsoleCall.warning?] using warnings

theorem print (text : Text) {failing ideal : Terminal} (healed : HealedTo failing ideal) :
    Agree HealedTo (Terminal.print text failing) (Terminal.print text ideal) := by
  obtain ⟨⟨source, sink, calls⟩, log⟩ := failing
  obtain ⟨⟨source', sink', calls'⟩, log'⟩ := ideal
  obtain ⟨script, forgiving, rfl, rfl, rfl, warnings⟩ := healed
  obtain ⟨absorbed, onward⟩ := forgiving.write text
  simp only [Terminal.print, Console.write]
  generalize sink.write text = put at absorbed onward
  obtain ⟨failure, sink⟩ := put
  cases failure with
  | none => exact ⟨rfl, script, onward, rfl, rfl, rfl, warnings⟩
  | some fault =>
      simp only [absorbed fault rfl, if_true]
      refine ⟨rfl, script, onward, rfl, rfl, ?_, ?_⟩
      · simp [Terminal.note, Message.isFailure]
      · simpa [Terminal.note, Message.isFailure, ConsoleCall.warning?] using warnings

theorem note {message : Message} {failing ideal : Terminal} (plain : message.isFailure = false)
    (healed : HealedTo failing ideal) : HealedTo (failing.note message) (ideal.note message) where
  script := healed.script
  forgiving := healed.forgiving
  full := healed.full
  calls := healed.calls
  log := by simp [Terminal.note, plain, healed.log]
  warnings := by simpa [Terminal.note, plain] using healed.warnings

theorem simulation : Simulation HealedTo where
  readChar := readChar
  print text _ _ healed := print text healed
  note plain healed := note plain healed

variable {failing ideal : Terminal}

theorem reads_eq (healed : HealedTo failing ideal) :
    ideal.console.reads = failing.console.reads := by
  have same : ConsoleCall.isRead ∘ ConsoleCall.healed = ConsoleCall.isRead := by
    funext call
    cases call <;> rfl
  simp only [Console.reads, healed.calls, List.countP_map]
  exact congrArg (List.countP · failing.console.calls) same

theorem chunks_eq (healed : HealedTo failing ideal) :
    ideal.console.chunks = failing.console.writes.map Prod.fst := by
  have same : ConsoleCall.written? ∘ ConsoleCall.healed =
      fun call => call.attempted?.map Prod.fst := by
    funext call
    cases call <;> rfl
  simp only [Console.chunks, Console.writes, healed.calls, List.filterMap_map, List.map_reverse,
    List.map_filterMap]
  exact congrArg (fun text? => (failing.console.calls.filterMap text?).reverse) same

end HealedTo

theorem Console.chunks_eq_writes (console : Console) :
    console.chunks = (console.writes.filter (·.2.isNone)).map Prod.fst := by
  have same : ConsoleCall.written? =
      fun call => (call.attempted?.filter (·.2.isNone)).map Prod.fst := by
    funext call
    cases call with
    | read reading => rfl
    | write text failure => cases failure <;> rfl
  simp only [chunks, writes, List.filter_reverse, List.map_reverse, List.filter_filterMap,
    List.map_filterMap]
  exact congrArg (fun text? => (console.calls.filterMap text?).reverse) same

theorem healedTo_ofSourceSink {entries : List Reading} {sink : Sink}
    (readable : ∀ fault, .failure fault ∈ entries → fault.absorbedByRead = true)
    (writable : sink.Forgiving) {log : List Message}
    (plain : ∀ message ∈ log, message.isFailure = false) :
    HealedTo ⟨Console.ofSourceSink (.script entries) sink, log⟩
      ⟨Console.ofSourceSink (.script (entries.map Reading.healed)) .full, log⟩ where
  script := ⟨entries, rfl, rfl, readable⟩
  forgiving := writable
  full := rfl
  calls := rfl
  log := (List.filter_eq_self.mpr fun message member => by simp [plain message member]).symm
  warnings := List.filter_eq_nil_iff.mpr fun message member => by simp [plain message member]

/-- Failures of the device change no result: whatever is asked of the machine, it answers and
computes what it would with a console that works. -/
theorem device_failures_change_no_result {files : Files} {image config : Value}
    {entries : List Reading} {sink : Sink} {machine : Machine}
    (readable : ∀ fault, .failure fault ∈ entries → fault.absorbedByRead = true)
    (writable : sink.Forgiving)
    (built : build files image config (Console.ofSourceSink (.script entries) sink) =
      .ok machine) :
    ∃ ideal, build files image config
        (Console.ofSourceSink (.script (entries.map Reading.healed)) .full) = .ok ideal ∧
      ∀ requests : List Request,
        let (answers, last) := Exec.performAll requests machine
        let (idealAnswers, idealLast) := Exec.performAll requests ideal
        answers = idealAnswers ∧
        last = { idealLast with terminal := last.terminal } ∧
        last.terminal.console.reads = idealLast.terminal.console.reads ∧
        idealLast.terminal.console.chunks = last.terminal.console.writes.map Prod.fst ∧
        last.terminal.console.chunks =
          (last.terminal.console.writes.filter (·.2.isNone)).map Prod.fst ∧
        idealLast.terminal.log = last.terminal.log.filter (!·.isFailure) ∧
        last.terminal.log.filter (·.isFailure) =
          last.terminal.console.calls.filterMap (·.warning?) ∧
        ∀ message ∈ last.terminal.log, message.isFailure = true → message.level = .warning := by
  obtain ⟨program, settings, rfl, again⟩ := build_eq_ok built
  refine ⟨_, again _, fun requests => ?_⟩
  have alike : Alike HealedTo
      (Machine.ofConfig program settings (Console.ofSourceSink (.script entries) sink))
      (Machine.ofConfig program settings
        (Console.ofSourceSink (.script (entries.map Reading.healed)) .full)) :=
    ⟨(Machine.ofConfig_proper _ _ _).reachable,
      healedTo_ofSourceSink readable writable (by simp [Message.isFailure]), rfl⟩
  obtain ⟨answers, last⟩ := Lockstep.performAll HealedTo.simulation alike requests
  refine ⟨answers, ?_, last.terminals.reads_eq.symm, last.terminals.chunks_eq,
    Console.chunks_eq_writes _, last.terminals.log, last.terminals.warnings, ?_⟩
  · rw [last.rest]
  · exact fun message _ => message.level_of_isFailure

/-- A device that is unplugged at first fails one read and one write. -/
theorem unplugged_device_changes_no_result :
    let image : Value := .bytes .constant [0x30, 0x00, 0xF0, 0x20, 0xF0, 0x25]
    let fault : Fault := .device .general "unplugged"
    ∃ machine ideal,
      build ⟨[]⟩ image .null (Console.ofSourceSink (.script [.failure fault, .line "a"])
        (.script [some fault])) = .ok machine ∧
      build ⟨[]⟩ image .null (Console.ofSourceSink (.script [.line "", .line "a"]) .full) =
        .ok ideal ∧
      ∀ requests : List Request,
        (Exec.performAll requests machine).1 = (Exec.performAll requests ideal).1 := by
  intro image fault
  have readable : ∀ other, Reading.failure other ∈ [.failure fault, .line "a"] →
      other.absorbedByRead = true := by
    simp [fault, Fault.absorbedByRead]
  have writable : (Sink.script [some fault]).Forgiving := by
    simp [fault, Sink.Forgiving, Fault.absorbedByWrite]
  have built : build ⟨[]⟩ image .null (Console.ofSourceSink
      (.script [.failure fault, .line "a"]) (.script [some fault])) = .ok _ := rfl
  obtain ⟨ideal, again, same⟩ := device_failures_change_no_result readable writable built
  exact ⟨_, ideal, built, again, fun requests => (same requests).1⟩

end Lc3
