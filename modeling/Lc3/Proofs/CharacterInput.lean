import Lc3.Proofs.Calls
import Lc3.Proofs.TrapTable

/-!
Characters of the input. A poll of the keyboard and the two services that read all take the next
line, and all see the code of its first character. A character whose code is no word is seen as
the word that the code is congruent to.
-/

namespace Lc3

namespace Reading

/-- The code of the character that a read yields; 0 if it yields none. -/
def typed (reading : Reading) : Word := reading.code?.getD 0

/-- The read yields no character. -/
def IsBlank : Reading → Prop
  | .line text => text = ""
  | .failure fault => fault.absorbedByRead = true

theorem typed_of_isBlank {reading : Reading} (blank : reading.IsBlank) : reading.typed = 0 := by
  cases reading with
  | failure fault => rfl
  | line text =>
      simp only [IsBlank] at blank
      simp [typed, code?, Terminal.firstCode, blank]

end Reading

theorem charOf_of_valid {word : Word} (valid : word.toNat.isValidChar) :
    charOf word = Char.ofNat word.toNat := by
  rw [charOf, dif_pos valid, Char.ofNat, dif_pos valid]

theorem Terminal.readChar_of_absorbed {terminal : Terminal} {reading : Reading} {console : Console}
    (taken : terminal.console.readLine = (reading, console))
    (absorbed : (ConsoleCall.read reading).passedOn? = none) :
    ∃ log, readChar terminal = .ok reading.code? ⟨console, log⟩ := by
  have reads := terminal.readsChar
  generalize readChar terminal = result at reads ⊢
  cases reads with
  | line line =>
      obtain ⟨rfl, rfl⟩ := Prod.mk.inj (taken.symm.trans line)
      exact ⟨_, rfl⟩
  | absorbed failed =>
      obtain ⟨rfl, rfl⟩ := Prod.mk.inj (taken.symm.trans failed)
      exact ⟨_, rfl⟩
  | passedOn failed passed =>
      obtain ⟨rfl, rfl⟩ := Prod.mk.inj (taken.symm.trans failed)
      simp [ConsoleCall.passedOn?, passed] at absorbed

section

variable {machine : Machine} {reading : Reading} {console : Console}
  (taken : machine.terminal.console.readLine = (reading, console))

include taken

theorem calls_of_taken : console.calls = .read reading :: machine.calls := by
  have calls := Console.calls_readLine machine.terminal.console
  rwa [taken] at calls

theorem read_status_of_absorbed (proper : machine.keyboard.Proper)
    (absorbed : (ConsoleCall.read reading).passedOn? = none) :
    ∃ log, Exec.read (wordOf machine.keyboard.status) machine =
      .ok (if reading.typed = 0 then 0 else Keyboard.ready) { machine with
        terminal := ⟨console, log⟩
        memory := machine.keyboard.display machine.memory reading.code? } := by
  obtain ⟨log, found⟩ := Terminal.readChar_of_absorbed taken absorbed
  have status := (Keyboard.isStatus_iff proper.reachable (wordOf machine.keyboard.status)).mpr rfl
  refine ⟨log, ?_⟩
  rw [Exec.read_of_status status, found]
  simp only [proper.get_display, if_true, Reading.typed]
  rfl

end

theorem read_status_of_ok {machine after : Machine} {value : Word}
    (proper : machine.keyboard.Proper)
    (ended : Exec.read (wordOf machine.keyboard.status) machine = .ok value after) :
    let reading := machine.terminal.console.readLine.1
    value = (if reading.typed = 0 then 0 else Keyboard.ready) ∧
      after.memory = machine.keyboard.display machine.memory reading.code? ∧
      after.terminal.console = machine.terminal.console.readLine.2 := by
  intro reading
  have status := (Keyboard.isStatus_iff proper.reachable (wordOf machine.keyboard.status)).mpr rfl
  have failed := ended
  rw [Exec.read_of_status status] at failed
  have absorbed : (ConsoleCall.read reading).passedOn? = none := by
    have reads := machine.terminal.readsChar
    generalize Terminal.readChar machine.terminal = result at reads failed
    cases reads with
    | line taken => simp [reading, taken, ConsoleCall.passedOn?]
    | absorbed taken absorbed => simp [reading, taken, ConsoleCall.passedOn?, absorbed]
    | passedOn taken passed => cases failed
  obtain ⟨log, read⟩ := read_status_of_absorbed rfl proper absorbed
  rw [read, EStateM.Result.ok.injEq] at ended
  obtain ⟨rfl, rfl⟩ := ended
  exact ⟨rfl, rfl, rfl⟩

/-- The service puts a code into R0 and makes these calls of the console, and only a failure that
one of them passes on can stop it. -/
structure Delivers (service : Service) (machine : Machine) (code : Word)
    (made : List ConsoleCall) : Prop where
  registers : (Exec.leaves (Exec.trap service.vector) machine).registers =
    machine.registers.set 0 code
  memory : (Exec.leaves (Exec.trap service.vector) machine).memory = machine.memory
  calls : Exec.callsOf (Exec.trap service.vector) machine = made
  ends : (∀ call ∈ made, call.passedOn? = none) →
    ∃ after, Exec.trap service.vector machine = .ok .continuing after

namespace Delivers

variable {machine : Machine} {reading : Reading} {console : Console}

theorem of_leaves {service : Service} {code : Word} {last : Terminal} {made : List ConsoleCall}
    (left : Exec.leaves (Exec.trap service.vector) machine =
      { machine with terminal := last }.assign 0 code)
    (calls : last.console.calls = made.reverse ++ machine.calls)
    (ends : (∀ call ∈ made, call.passedOn? = none) →
      ∃ after, Exec.trap service.vector machine = .ok .continuing after) :
    Delivers service machine code made where
  registers := by rw [left]; rfl
  memory := by rw [left]; rfl
  calls := by
    rw [← List.reverse_reverse made]
    apply Exec.callsOf_eq
    rw [left]
    exact calls
  ends := ends

theorem of_ok {service : Service} {code : Word} {log : List Message}
    (taken : machine.terminal.console.readLine = (reading, console))
    (ended : Exec.trap service.vector machine =
      .ok .continuing ({ machine with terminal := ⟨console, log⟩ }.assign 0 code)) :
    Delivers service machine code [.read reading] :=
  of_leaves (Exec.leaves_of_ok ended) (calls_of_taken taken) fun _ => ⟨_, ended⟩

variable (taken : machine.terminal.console.readLine = (reading, console))
  (absorbed : (ConsoleCall.read reading).passedOn? = none)

include taken absorbed

theorem getc : Delivers .getc machine reading.typed [.read reading] := by
  obtain ⟨log, found⟩ := Terminal.readChar_of_absorbed taken absorbed
  exact of_ok taken (serve_getc.mpr ⟨_, _, found, rfl, rfl⟩)

end Delivers

/-- A look at the status register takes one line, gives a word, and leaves a word in the data
register. -/
def Shows (machine : Machine) (reading : Reading) (status data : Word) : Prop :=
  ∃ after, Exec.read (wordOf machine.keyboard.status) machine = .ok status after ∧
    after.memory.get (wordOf machine.keyboard.data) = data ∧
    after.calls = .read reading :: machine.calls

section

variable {machine : Machine} {reading : Reading} {console : Console}
  (proper : machine.keyboard.Proper)
  (taken : machine.terminal.console.readLine = (reading, console))
  (absorbed : (ConsoleCall.read reading).passedOn? = none)

include proper taken absorbed

end

/-- A machine with one line to read. -/
def Machine.typing (line : String) : Machine :=
  .load ⟨0x3000, []⟩ .standard none defaultHaltMessage
    (.ofSourceSink (.script [.line line]) .full)

end Lc3
