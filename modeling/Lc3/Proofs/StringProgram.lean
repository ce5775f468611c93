import Lc3.Proofs.Placement
import Lc3.Proofs.StringOutput

/-!
A program that prints a string: it takes the string's address, prints, and halts. Main statement:
run from its bytes, it halts after its three instructions with the string and the halt message
printed and no input taken, if neither the last address nor the status register is in its way. The
string may go round the last address.
-/

namespace Lc3

/-- The sink takes every text that is written to it. -/
def Sink.TakesAll : Sink → Prop
  | .full => True
  | .script outcomes => ∀ outcome ∈ outcomes, outcome = none
  | .charset _ | .closed => False

theorem Sink.TakesAll.write {sink : Sink} (takes : sink.TakesAll) (text : Text) :
    (sink.write text).1 = none ∧ (sink.write text).2.TakesAll := by
  cases sink with
  | full => exact ⟨rfl, trivial⟩
  | charset _ | closed => exact takes.elim
  | script outcomes =>
      cases outcomes with
      | nil => exact ⟨rfl, takes⟩
      | cons outcome outcomes =>
          constructor
          · exact takes outcome List.mem_cons_self
          · intro later member
            exact takes later (List.mem_cons_of_mem outcome member)

/-- A terminal that takes all has printed a text. -/
structure Terminal.Printed (text : Text) (terminal after : Terminal) : Prop where
  print : Terminal.print text terminal = .ok () after
  takes : after.console.sink.TakesAll
  source : after.console.source = terminal.console.source
  calls : after.console.calls = .write text none :: terminal.console.calls

theorem Terminal.exists_printed {terminal : Terminal} (takes : terminal.console.sink.TakesAll)
    (text : Text) : ∃ after, Printed text terminal after := by
  obtain ⟨taken, still⟩ := takes.write text
  let console : Console := { terminal.console with
    sink := (terminal.console.sink.write text).2
    calls := .write text none :: terminal.console.calls }
  have put : terminal.console.write text = (none, console) := by
    simp only [console, ← taken]
    rfl
  refine ⟨{ terminal with console }, ?_, still, rfl, rfl⟩
  rw [Terminal.print, put]

/-! The program in memory. -/

def stringProgram (origin : Word) (string : List Word) : Image where
  origin
  words := 0xE002 :: 0xF022 :: 0xF025 :: (string ++ [0])

theorem length_stringProgram (origin : Word) (string : List Word) :
    (stringProgram origin string).words.length = string.length + 4 := by
  simp only [stringProgram, List.length_cons, List.length_append, List.length_nil]

theorem add_three (address : Word) (index : Nat) :
    address + 3 + BitVec.ofNat 16 index = address + BitVec.ofNat 16 (index + 3) := by
  rw [BitVec.add_assoc, Nat.add_comm]
  exact congrArg (address + ·) (BitVec.ofNat_add 3 index).symm

/-- Words that do not go round stand where they were placed. -/
theorem Memory.holds_place (memory : Memory) (first : Word) {words : List Word}
    (fits : words.length ≤ 65536) : (memory.place first words).Holds first words := by
  intro index inside
  have place : distance first (first + BitVec.ofNat 16 index) = index := by
    unfold distance
    bv_omega
  have last : lastIndex words.length index = index := by
    unfold lastIndex
    omega
  have found := memory.getElem?_lastIndex (place.symm ▸ inside)
  rw [place, last, List.getElem?_eq_getElem inside] at found
  exact (Option.some.inj found).symm

namespace Machine

/-- The program stands at the program counter, and neither the status register nor a reason to stop
is in its way. -/
structure AboutToPrint (start : Machine) (string : List Word) : Prop where
  working : start.state = .continuing
  proper : start.keyboard.Proper
  low : start.registers.pc.toNat ≤ 0xFFFC
  allowed : ∀ limit, start.stepLimit = some limit → start.tick + 3 ≤ limit
  holds : start.memory.Holds start.registers.pc (stringProgram start.registers.pc string).words
  nonzero : ∀ word ∈ string, word ≠ 0
  clear : ∀ index ≤ string.length + 3,
    start.registers.pc + BitVec.ofNat 16 index ≠ wordOf start.keyboard.status

/-- So many instructions further on, with nothing changed but registers and terminal. -/
structure FurtherBy (start : Machine) (count : Nat) (machine : Machine) : Prop where
  working : machine.state = .continuing
  pc : machine.registers.pc = start.registers.pc + BitVec.ofNat 16 count
  tick : machine.tick = start.tick + count
  memory : machine.memory = start.memory
  keyboard : machine.keyboard = start.keyboard
  stepLimit : machine.stepLimit = start.stepLimit
  haltMessage : machine.haltMessage = start.haltMessage

namespace AboutToPrint

variable {start machine : Machine} {string : List Word} (about : start.AboutToPrint string)
  {count : Nat} (further : start.FurtherBy count machine)

include about

theorem string_holds : start.memory.Holds (start.registers.pc + 3) (string ++ [0]) := by
  intro index inside
  have within : index + 3 < (stringProgram start.registers.pc string).words.length := by
    rw [List.length_append, List.length_singleton] at inside
    rw [length_stringProgram]
    omega
  have held := about.holds (index + 3) within
  rw [← add_three] at held
  exact held

theorem string_clear (index : Nat) (bound : index ≤ string.length) :
    start.registers.pc + 3 + BitVec.ofNat 16 index ≠ wordOf start.keyboard.status := by
  have apart := about.clear (index + 3) (by omega)
  rw [← add_three] at apart
  exact apart

include further

theorem not_stops (inside : count < 3) : ¬machine.Stops := by
  rintro (ended | top | ⟨limit, limited, reached⟩)
  · exact ended further.working
  · have low := about.low
    rw [further.pc, Exec.topAddress] at top
    bv_omega
  · have enough := about.allowed limit (further.stepLimit ▸ limited)
    have tick := further.tick
    omega

/-- A step carries out the row of the word that stands there. -/
theorem step (inside : count < 3) {word : Word}
    (stands : (stringProgram start.registers.pc string).words[count]? = some word)
    {outcome : Outcome} {done : Machine}
    (row : Row word (machine.goTo (machine.registers.pc + 1)) outcome done) :
    Exec.step machine = .ok outcome { done with tick := done.tick + 1, state := outcome } := by
  obtain ⟨bound, same⟩ := List.getElem?_eq_some_iff.mp stands
  have held := about.holds count bound
  -- The word is fetched away from the status register, so the fetch polls nothing.
  have plain := about.clear count (by omega)
  rw [← further.pc, ← further.keyboard] at plain
  rw [← further.pc, ← further.memory, same] at held
  have next : machine.registers.pc + 1 = machine.ahead 1 := add_wordOf machine.registers.pc 1
  have reads : Reads machine machine.registers.pc word machine := held ▸ .stored plain
  rw [next] at row
  rw [Exec.step_eq_ok_iff further.working]
  have proper : machine.keyboard.Proper := further.keyboard ▸ about.proper
  exact ⟨done, (work_eq_ok_iff proper).mpr ⟨word, machine, reads, row⟩, rfl⟩

end AboutToPrint

/-! Its three instructions: the string's address is taken, the string is printed, the program
halts. -/

theorem FurtherBy.goTo {start machine : Machine} {count : Nat}
    (further : start.FurtherBy count machine) :
    machine.registers.pc + 1 = start.registers.pc + BitVec.ofNat 16 (count + 1) := by
  rw [further.pc, BitVec.add_assoc]
  congr 1
  exact (BitVec.ofNat_add count 1).symm

theorem FurtherBy.none {start : Machine} (working : start.state = .continuing) :
    start.FurtherBy 0 start where
  working := working
  pc := (add_ofNat_zero start.registers.pc).symm
  tick := by omega
  memory := rfl
  keyboard := rfl
  stepLimit := rfl
  haltMessage := rfl

namespace AboutToPrint

variable {start machine : Machine} {string : List Word} (about : start.AboutToPrint string)

include about

theorem takes_address :
    ∃ next, Exec.step start = .ok .continuing next ∧ start.FurtherBy 1 next ∧
      next.registers.get 0 = start.registers.pc + 3 ∧ next.terminal = start.terminal := by
  have further := FurtherBy.none about.working
  have target : wordOf ((start.registers.pc + 1).toNat + 2) = start.registers.pc + 3 := by
    rw [← add_wordOf, BitVec.add_assoc]
    rfl
  refine ⟨_, about.step further (by omega) rfl ⟨rfl, rfl⟩, ?_, ?_, rfl⟩
  · exact ⟨rfl, rfl, rfl, rfl, rfl, rfl, rfl⟩
  · exact (Registers.get_set_self _ _ _).trans target

theorem prints (further : start.FurtherBy 1 machine)
    (pointer : machine.registers.get 0 = start.registers.pc + 3) {shown : Terminal}
    (printed : Terminal.print (textOfWords string) machine.terminal = .ok () shown) :
    ∃ next, Exec.step machine = .ok .continuing next ∧ start.FurtherBy 2 next ∧
      next.terminal = shown := by
  have walk : Walk (machine.goTo (machine.registers.pc + 1)) (machine.registers.get 0)
      (string.length + 1) string none (machine.goTo (machine.registers.pc + 1)) := by
    apply Walk.of_holds
    · exact further.keyboard ▸ about.proper.reachable
    · rw [pointer]
      exact further.memory ▸ about.string_holds
    · exact about.nonzero
    · rw [pointer]
      exact further.keyboard ▸ about.string_clear
  refine ⟨_, about.step further (by omega) rfl
    ⟨_, string, _, shown, walk, printed, rfl, rfl⟩, ?_, rfl⟩
  exact {
    working := rfl
    pc := further.goTo
    tick := by
      change machine.tick + 1 = _
      rw [further.tick]
      omega
    memory := further.memory
    keyboard := further.keyboard
    stepLimit := further.stepLimit
    haltMessage := further.haltMessage }

theorem halts (further : start.FurtherBy 2 machine) {last : Terminal}
    (printed : Terminal.print (start.haltMessage ++ Text.ofString "\n") machine.terminal =
      .ok () last) :
    ∃ next, Exec.step machine = .ok .halted next ∧ next.tick = start.tick + 3 ∧
      next.terminal.console = last.console := by
  rw [← further.haltMessage] at printed
  refine ⟨_, about.step further (by omega) rfl ⟨last, printed, rfl, rfl⟩, ?_, rfl⟩
  change machine.tick + 1 = _
  rw [further.tick]
  omega

/-- A run is these three instructions. -/
theorem run (takes : start.terminal.console.sink.TakesAll) :
    ∃ after, Exec.run start = .ok (some .halted) after ∧ after.tick = start.tick + 3 ∧
      after.terminal.console.source = start.terminal.console.source ∧
      after.calls = .write (start.haltMessage ++ Text.ofString "\n") none ::
        .write (textOfWords string) none :: start.calls := by
  obtain ⟨pointing, first, moved, pointer, same⟩ := about.takes_address
  rw [← same] at takes
  obtain ⟨shown, printed⟩ := Terminal.exists_printed takes (textOfWords string)
  obtain ⟨filled, second, onward, rfl⟩ := about.prints moved pointer printed.print
  obtain ⟨last, ended⟩ :=
    Terminal.exists_printed printed.takes (start.haltMessage ++ Text.ofString "\n")
  obtain ⟨after, third, tick, console⟩ := about.halts onward ended.print
  -- The limit and the last address are looked at before each instruction.
  have begins := about.not_stops (.none about.working) (by omega)
  have goes := about.not_stops moved (by omega)
  have goesOn := about.not_stops onward (by omega)
  have ends := RunEnds.onward begins first (.onward goes second (.ended goesOn third nofun))
  refine ⟨after, ?_, tick, ?_, ?_⟩
  · rw [Exec.run, Exec.runOn_of_runEnds ends]
  · rw [console, ended.source, printed.source, same]
  · rw [Machine.calls, console, ended.calls, printed.calls, same]
    rfl

end AboutToPrint

/-- A machine into which the program was loaded. -/
theorem aboutToPrint_ofConfig {settings : Config} (console : Console)
    (allowed : ∀ limit ∈ settings.stepLimit, 3 ≤ limit)
    {origin : Word} (low : origin.toNat ≤ 0xFFFC)
    {string : List Word} (nonzero : ∀ word ∈ string, word ≠ 0)
    (fits : string.length + 4 ≤ 65536)
    (clear : ∀ index ≤ string.length + 3, origin + BitVec.ofNat 16 index ≠ settings.status) :
    (ofConfig (stringProgram origin string) settings console).AboutToPrint string where
  working := rfl
  proper := ofConfig_proper _ settings console
  low := low
  allowed := by
    intro limit limited
    obtain ⟨count, chosen, rfl⟩ := Option.map_eq_some_iff.mp limited
    have enough := allowed count chosen
    change (0 : Int) + 3 ≤ (count : Int)
    omega
  holds := by
    apply Memory.holds_place
    rw [length_stringProgram]
    exact fits
  nonzero := nonzero
  clear := by
    have status : wordOf settings.keyboard.status = settings.status :=
      wordOf_toNat settings.status
    exact status ▸ clear

end Machine

/-- Run from its bytes, the program halts after three instructions, has printed its string and the
halt message, and has taken no input. -/
theorem string_program_prints_string {files : Files} {config : Value} {settings : Config}
    (loaded : Config.load files config = .ok settings)
    (allowed : ∀ limit ∈ settings.stepLimit, 3 ≤ limit)
    {origin : Word} (low : origin.toNat ≤ 0xFFFC)
    {string : List Word} (nonzero : ∀ word ∈ string, word ≠ 0)
    (fits : string.length + 4 ≤ 65536)
    (clear : ∀ index ≤ string.length + 3, origin + BitVec.ofNat 16 index ≠ settings.status)
    {sink : Sink} (takes : sink.TakesAll) (source : Source) (form : ByteForm) :
    ∃ machine,
      runImage files (.bytes form (stringProgram origin string).encode) config
        (.ofSourceSink source sink) = .ok (.ok (some .halted) machine) ∧
      machine.tick = 3 ∧
      machine.terminal.console.source = source ∧
      machine.terminal.console.reads = 0 ∧
      machine.terminal.console.output =
        Text.ofChars (string.map charOf) ++ settings.haltMessage ++ Text.ofString "\n" := by
  have built := build_of_loaded loaded (.bytes form (stringProgram origin string).encode)
    (.ofSourceSink source sink)
  have decoded : Image.ofValue (.bytes form (stringProgram origin string).encode) =
      .ok (stringProgram origin string) := Image.decode_encode _
  rw [Machine.ofValue, decoded] at built
  have about := Machine.aboutToPrint_ofConfig (.ofSourceSink source sink) allowed low nonzero fits
    clear
  obtain ⟨after, ran, tick, left, calls⟩ := about.run takes
  have made : after.terminal.console.calls =
      [.write (settings.haltMessage ++ Text.ofString "\n") none,
        .write (textOfWords string) none] := calls
  refine ⟨after, ?_, tick, left, ?_, ?_⟩
  · rw [runImage, built]
    exact congrArg Except.ok ran
  · rw [Console.reads, made]
    rfl
  · rw [Console.output, Console.chunks, made]
    simp [ConsoleCall.written?, textOfWords]

/-- The string goes round the last address and stands on the data register. -/
theorem round_greeting_program_prints_greeting :
    let config : Value := .mapping
      [(.text (Text.ofString "step_limit"), .int 3), (.text (Text.ofString "kbdr"), .int 0)]
    ∃ settings machine, Config.load ⟨[]⟩ config = .ok settings ∧
      (∀ limit ∈ settings.stepLimit, 3 ≤ limit) ∧
      (∀ index ≤ 5, 0xFFFC + BitVec.ofNat 16 index ≠ settings.status) ∧
      runImage ⟨[]⟩ (.bytes .constant (stringProgram 0xFFFC [0x48, 0x69]).encode) config
        (.ofSourceSink (.script [.line "x"]) (.script [])) = .ok (.ok (some .halted) machine) ∧
      machine.tick = 3 ∧ machine.terminal.console.reads = 0 ∧
      machine.terminal.console.output = Text.ofString "HiHALTing execution\n" := by
  intro config
  obtain ⟨settings, loaded, same⟩ : ∃ settings, Config.load ⟨[]⟩ config = .ok settings ∧
      settings = ⟨0xFE00, 0, some 3, defaultHaltMessage, by decide, by simp⟩ := ⟨_, rfl, rfl⟩
  have allowed : ∀ limit ∈ settings.stepLimit, 3 ≤ limit := by
    simp [same]
  have clear : ∀ index ≤ 5, 0xFFFC + BitVec.ofNat 16 index ≠ settings.status := by
    rw [same]
    decide
  have low : (0xFFFC : Word).toNat ≤ 0xFFFC := by decide
  have nonzero : ∀ word ∈ [(0x48 : Word), 0x69], word ≠ 0 := by simp
  have fits : [(0x48 : Word), 0x69].length + 4 ≤ 65536 := by simp
  have takes : (Sink.script []).TakesAll := nofun
  obtain ⟨machine, ran, tick, _, reads, output⟩ :=
    string_program_prints_string loaded allowed low nonzero fits clear takes
      (.script [.line "x"]) .constant
  refine ⟨settings, machine, loaded, allowed, clear, ran, tick, reads, ?_⟩
  rw [output, same]
  rfl

end Lc3
