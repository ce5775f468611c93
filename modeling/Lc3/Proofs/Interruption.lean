import Lc3.Proofs.InstructionTable

/-!
Steps that a failure of the console interrupts. Before the call that fails a step can only poll,
move the program counter behind the instruction and, in one service, put a character into R0. Main
statement: this is all that an interrupted step leaves behind.
-/

namespace Lc3

/-- From one machine to the other polls took these readings. Registers aside, nothing else
happened. -/
structure Polled (machine : Machine) (readings : List Reading) (after : Machine) : Prop where
  calls : after.calls = (readings.map .read).reverse ++ machine.calls
  absorbed : ∀ reading ∈ readings, (ConsoleCall.read reading).passedOn? = none
  rest : after = { machine with
    registers := after.registers
    memory := (readings.map (·.code?)).foldl machine.keyboard.display machine.memory
    terminal := after.terminal }

namespace Polled

variable {machine between after : Machine} {readings later : List Reading}

theorem of_registers (registers : Registers) : Polled machine [] { machine with registers } where
  calls := rfl
  absorbed := by simp
  rest := rfl

theorem append (first : Polled machine readings between) (second : Polled between later after) :
    Polled machine (readings ++ later) after where
  calls := by
    rw [second.calls, first.calls, List.map_append, List.reverse_append, List.append_assoc]
  absorbed := by
    intro reading member
    exact (List.mem_append.mp member).elim (first.absorbed reading) (second.absorbed reading)
  rest := by
    have rest := second.rest
    rw [first.rest] at rest
    rw [List.map_append, List.foldl_append]
    exact rest

theorem of_readChar {char : Option Word} {terminal : Terminal}
    (found : Terminal.readChar machine.terminal = .ok char terminal) :
    ∃ reading, reading.code? = char ∧
      Polled machine [reading] { machine with
        terminal, memory := machine.keyboard.display machine.memory char } := by
  obtain ⟨reading, done⟩ := machine.terminal.readChar_call
  rw [found] at done
  obtain ⟨calls, absorbed, rfl⟩ := done
  exact ⟨reading, rfl, calls, by simpa using absorbed, rfl⟩

end Polled

def OnlyPolled (machine after : Machine) : Prop :=
  after.registers = machine.registers ∧ ∃ readings, Polled machine readings after

namespace OnlyPolled

theorem refl (machine : Machine) : OnlyPolled machine machine :=
  ⟨rfl, [], .of_registers machine.registers⟩

theorem trans (first second third : Machine) (before : OnlyPolled first second)
    (after : OnlyPolled second third) : OnlyPolled first third := by
  obtain ⟨registers, readings, polled⟩ := before
  obtain ⟨registers', later, onward⟩ := after
  exact ⟨registers'.trans registers, readings ++ later, polled.append onward⟩

end OnlyPolled

/-- An action that does nothing but poll, until it ends or a call stops it. -/
def Polling (action : Exec α) : Prop := Keeps OnlyPolled action

namespace Polling

theorem pure (value : α) : Polling (pure value) := Keeps.pure OnlyPolled.refl value

theorem view (project : Machine → α) : Polling (Exec.view project) := OnlyPolled.refl

theorem bind {action : Exec α} {next : α → Exec β} (first : Polling action)
    (rest : ∀ value, Polling (next value)) : Polling (action >>= next) :=
  Keeps.bind first rest OnlyPolled.trans

theorem read (address : Word) : Polling (Exec.read address) := by
  intro machine
  cases status : machine.keyboard.isStatus address with
  | false =>
      rw [Exec.read_of_plain status]
      exact OnlyPolled.refl machine
  | true =>
      rw [Exec.read_of_status status]
      cases found : Terminal.readChar machine.terminal with
      | ok char terminal =>
          obtain ⟨reading, _, polled⟩ := Polled.of_readChar found
          exact ⟨rfl, [reading], polled⟩
      | error fault terminal => exact ⟨machine, OnlyPolled.refl machine, .read found⟩

theorem readString (address : Word) : Polling (Exec.readString address) :=
  Keeps.readString read OnlyPolled.refl OnlyPolled.trans address

theorem relative (offset : BitVec n) : Polling (Exec.relative offset) :=
  (view _).bind fun _ => pure _

theorem based (base : Register) (offset : BitVec 6) : Polling (Exec.based base offset) :=
  (view _).bind fun _ => pure _

end Polling

/-- Nothing stops the action. -/
def Settled (action : Exec α) : Prop := ∀ machine, ∃ value after, action machine = .ok value after

namespace Settled

theorem pure (value : α) : Settled (pure value) := fun machine => ⟨value, machine, rfl⟩

theorem view (project : Machine → α) : Settled (Exec.view project) :=
  fun machine => ⟨project machine, machine, rfl⟩

theorem update (change : Machine → Machine) : Settled (Exec.update change) :=
  fun machine => ⟨(), change machine, rfl⟩

theorem bind {action : Exec α} {next : α → Exec β} (first : Settled action)
    (rest : ∀ value, Settled (next value)) : Settled (action >>= next) := by
  intro machine
  obtain ⟨value, between, done⟩ := first machine
  obtain ⟨result, after, ended⟩ := rest value between
  exact ⟨result, after, Exec.bind_eq_ok_iff.mpr ⟨value, between, done, ended⟩⟩

/-- The end of most instructions: something is changed, and the program goes on. -/
theorem finish (change : Machine → Machine) (outcome : Outcome) :
    Settled (do Exec.update change; return outcome) :=
  (update change).bind fun _ => .pure outcome

theorem operand : (second : Operand) → Settled (Exec.operand second)
  | .register _ => view _
  | .immediate _ => .pure _

theorem jumpRelative (offset : BitVec n) :
    Settled (do Exec.jump (← Exec.relative offset); return Outcome.continuing) :=
  bind ((view _).bind fun _ => .pure _) fun _ => finish _ _

end Settled

/-- What stops the action, if anything does, finds the machine as polls alone have left it. -/
def Cautious (action : Exec α) : Prop :=
  ∀ machine interrupt after, action machine = .error interrupt after →
    ∃ between, OnlyPolled machine between ∧ Fails between interrupt after

namespace Cautious

theorem of_settled {action : Exec α} (settled : Settled action) : Cautious action := by
  intro machine interrupt after failed
  obtain ⟨value, between, done⟩ := settled machine
  rw [failed] at done
  cases done

theorem readChar : Cautious (Exec.atTerminal Terminal.readChar) := by
  intro machine interrupt after failed
  rw [Exec.atTerminal_apply] at failed
  cases found : Terminal.readChar machine.terminal with
  | ok char terminal => simp [found] at failed
  | error fault terminal =>
      rw [found] at failed
      cases failed
      exact ⟨machine, .refl machine, .read found⟩

theorem print (text : Text) : Cautious (Exec.print text) := by
  intro machine interrupt after failed
  rw [Exec.print, Exec.atTerminal_apply] at failed
  cases taken : Terminal.print text machine.terminal with
  | ok _ terminal => simp [taken] at failed
  | error fault terminal =>
      rw [taken] at failed
      cases failed
      exact ⟨machine, .refl machine, .print taken⟩

theorem after_polls {action : Exec α} {next : α → Exec β} (first : Polling action)
    (rest : ∀ value, Cautious (next value)) : Cautious (action >>= next) := by
  intro machine interrupt after failed
  have before := first machine
  rw [Exec.bind_apply] at failed
  cases done : action machine with
  | error interrupt' after' =>
      rw [done] at before failed
      cases failed
      exact before
  | ok value between =>
      rw [done] at before failed
      obtain ⟨last, polled, fails⟩ := rest value between interrupt after failed
      exact ⟨last, OnlyPolled.trans _ _ _ before polled, fails⟩

theorem before_settled {action : Exec α} {next : α → Exec β} (first : Cautious action)
    (rest : ∀ value, Settled (next value)) : Cautious (action >>= next) := by
  intro machine interrupt after failed
  rw [Exec.bind_apply] at failed
  cases done : action machine with
  | error interrupt' after' =>
      rw [done] at failed
      cases failed
      exact first machine interrupt after done
  | ok value between =>
      obtain ⟨_, _, ended⟩ := rest value between
      simp only [done, ended] at failed
      cases failed

theorem readCharacter : Cautious Exec.readCharacter :=
  readChar.before_settled fun _ => Settled.bind (.update _) fun _ => .pure _

theorem printed (text : Text) : Cautious (do Exec.print text; return Outcome.continuing) :=
  (print text).before_settled fun _ => .pure _

theorem serve {service : Service} (plain : service ≠ .input) : Cautious (Exec.serve service) := by
  cases service with
  | getc =>
      have discarded : Cautious (Exec.readCharacter >>= fun _ => Pure.pure ()) :=
        readCharacter.before_settled fun _ => .pure ()
      exact discarded.before_settled fun _ => .pure _
  | out => exact .after_polls (.view _) fun _ => printed _
  | puts => exact .after_polls (.view _) fun _ => .after_polls (.readString _) fun _ => printed _
  | input => exact absurd rfl plain
  | putsp => exact .after_polls (.view _) fun _ => .after_polls (.readString _) fun _ => printed _
  | halt =>
      have halted : ∀ _ : Unit, Settled (do
          Exec.note (.halted ((← Exec.view (·.tick)) + 1)); return Outcome.halted) :=
        fun _ => (Settled.view _).bind fun _ => .finish _ _
      exact .after_polls (.view _) fun _ => (print _).before_settled halted

theorem trap {vector : BitVec 8} (plain : vector ≠ 0x23) : Cautious (Exec.trap vector.toNat) := by
  unfold Exec.trap
  cases found : Service.ofVector? vector.toNat with
  | none => exact .of_settled ((Settled.view _).bind fun _ => .finish _ _)
  | some service =>
      refine serve fun input => plain ?_
      have number := Service.vector_of_ofVector? found
      rw [input] at number
      exact BitVec.eq_of_toNat_eq number.symm

/-- Instructions that change anything but the console read and print before they do so. Only the
service that echoes what it reads sets R0 first. -/
theorem execute {instruction : Instruction} (plain : instruction ≠ .trap 0x23) :
    Cautious (Exec.execute instruction) := by
  cases instruction with
  | branch mask offset =>
      refine .of_settled ((Settled.view _).bind fun condition => ?_)
      split
      · exact .jumpRelative offset
      · exact .pure _
  | add destination source second | and destination source second =>
      exact .of_settled ((Settled.view _).bind fun _ => (Settled.operand second).bind fun _ =>
        .finish _ _)
  | not destination source => exact .of_settled ((Settled.view _).bind fun _ => .finish _ _)
  | load destination offset =>
      exact .after_polls (.relative offset) fun _ => .after_polls (.read _) fun _ =>
        .of_settled (.finish _ _)
  | loadIndirect destination offset =>
      exact .after_polls (.relative offset) fun _ => .after_polls (.read _) fun _ =>
        .after_polls (.read _) fun _ => .of_settled (.finish _ _)
  | loadBase destination base offset =>
      exact .after_polls (.based base offset) fun _ => .after_polls (.read _) fun _ =>
        .of_settled (.finish _ _)
  | loadAddress destination offset =>
      exact .after_polls (.relative offset) fun _ => .of_settled (.finish _ _)
  | store source offset =>
      exact .after_polls (.relative offset) fun _ => .after_polls (.view _) fun _ =>
        .of_settled (.finish _ _)
  | storeIndirect source offset =>
      exact .after_polls (.relative offset) fun _ => .after_polls (.read _) fun _ =>
        .after_polls (.view _) fun _ => .of_settled (.finish _ _)
  | storeBase source base offset =>
      exact .after_polls (.based base offset) fun _ => .after_polls (.view _) fun _ =>
        .of_settled (.finish _ _)
  | jump base => exact .of_settled ((Settled.view _).bind fun _ => .finish _ _)
  | call offset =>
      exact .of_settled ((Settled.view _).bind fun _ => (Settled.update _).bind fun _ =>
        .jumpRelative offset)
  | callRegister base =>
      exact .of_settled ((Settled.view _).bind fun _ => (Settled.update _).bind fun _ =>
        (Settled.view _).bind fun _ => .finish _ _)
  | unused => exact .of_settled (.pure _)
  | trap vector => exact trap fun same => plain (congrArg Instruction.trap same)

end Cautious

/-! What is left behind when a call fails. -/

namespace Keyboard

theorem get_foldl_display_of_ne (keyboard : Keyboard) (memory : Memory)
    (chars : List (Option Word)) {address : Word} (status : address ≠ wordOf keyboard.status)
    (data : address ≠ wordOf keyboard.data) :
    (chars.foldl keyboard.display memory).get address = memory.get address := by
  induction chars generalizing memory with
  | nil => rfl
  | cons char chars ih => rw [List.foldl_cons, ih, get_display_of_ne _ _ _ status data]

end Keyboard

/-- The calls that an interrupted step made: polls with these readings, then other reads, then the
call that failed. -/
structure Stopped (machine : Machine) (readings typed : List Reading) (fault : Fault)
    (after : Machine) : Prop where
  calls : ∃ failure : ConsoleCall, failure.passedOn? = some fault ∧
    after.calls = failure :: ((readings ++ typed).map .read).reverse ++ machine.calls
  absorbed : ∀ reading ∈ readings ++ typed, (ConsoleCall.read reading).passedOn? = none
  rest : after = { machine with
    registers := after.registers
    memory := (readings.map (·.code?)).foldl machine.keyboard.display machine.memory
    terminal := after.terminal }

theorem Fails.rest {machine after : Machine} {interrupt : Interrupt}
    (fails : Fails machine interrupt after) :
    after = { machine with terminal := after.terminal } := by
  cases fails <;> rfl

theorem Polled.stopped {machine between after : Machine} {readings : List Reading} {fault : Fault}
    (polled : Polled machine readings between) (fails : Fails between (.fault fault) after) :
    Stopped machine readings [] fault after where
  calls := by
    rcases fails.calls with impossible | ⟨_, failure, ⟨⟩, calls, passed⟩
    · cases impossible
    · exact ⟨failure, passed, by rw [calls, polled.calls, List.append_nil, List.cons_append]⟩
  absorbed := by
    rw [List.append_nil]
    exact polled.absorbed
  rest := by
    have rest := fails.rest
    rw [polled.rest] at rest
    rw [rest]

theorem Polled.stopped_echo {machine between : Machine} {readings : List Reading} {code : Word}
    {text : Text} {typed last : Terminal} {fault : Fault} (polled : Polled machine readings between)
    (found : Terminal.readChar between.terminal = .ok (some code) typed)
    (failed : Terminal.print text typed = .error fault last) :
    ∃ reading, reading.code? = some code ∧
      Stopped machine readings [reading] fault
        ({ between with terminal := last }.assign 0 code) := by
  obtain ⟨reading, read⟩ := between.terminal.readChar_call
  obtain ⟨failure, printed⟩ := typed.print_call text
  rw [found] at read
  rw [failed] at printed
  obtain ⟨calls, absorbed, same⟩ := read
  refine ⟨reading, same.symm, ⟨failure, printed.2, ?_⟩, ?_, ?_⟩
  · have before := polled.calls
    simp only [Machine.calls, Machine.assign] at before ⊢
    rw [printed.1, calls, before]
    simp
  · intro other member
    rcases List.mem_append.mp member with earlier | latest
    · exact polled.absorbed other earlier
    · exact List.mem_singleton.mp latest ▸ absorbed
  · rw [polled.rest]
    rfl

namespace Stopped

variable {machine after : Machine} {readings typed : List Reading} {fault : Fault}

theorem output_eq (stopped : Stopped machine readings typed fault after) :
    after.terminal.console.chunks = machine.terminal.console.chunks := by
  obtain ⟨failure, passed, calls⟩ := stopped.calls
  have unwritten : failure.written? = none := by
    cases failure with
    | read reading => rfl
    | write text failed =>
        cases failed with
        | none => cases passed
        | some fault => rfl
  have reads (readings : List Reading) :
      ((readings.map ConsoleCall.read).reverse.filterMap (·.written?)) = [] := by
    simp [ConsoleCall.written?]
  simp only [Machine.calls] at calls
  rw [Console.chunks, calls, List.cons_append, List.filterMap_cons_none unwritten,
    List.filterMap_append, reads, List.nil_append, Console.chunks]

theorem get_memory_of_ne (stopped : Stopped machine readings typed fault after) {address : Word}
    (status : address ≠ wordOf machine.keyboard.status)
    (data : address ≠ wordOf machine.keyboard.data) :
    after.memory.get address = machine.memory.get address := by
  rw [stopped.rest]
  exact machine.keyboard.get_foldl_display_of_ne _ _ status data

end Stopped

namespace Machine

/-- What fails is the read of the next instruction itself. -/
def FetchFails (machine : Machine) : Prop :=
  ∃ interrupt after, Exec.read machine.registers.pc machine = .error interrupt after

/-- The next instruction takes a character of this code from the console, and what fails is its
echo. -/
def EchoFails (machine : Machine) (code : Word) : Prop :=
  ∃ word fetched typed fault last,
    Exec.read machine.registers.pc machine = .ok word fetched ∧
    Instruction.decode word = .trap 0x23 ∧
    Terminal.readChar fetched.terminal = .ok (some code) typed ∧ code ≠ 0 ∧
    Terminal.print (Text.ofChars [charOf code, '\n']) typed = .error fault last

/-- What a machine is after a step that the failure of a call interrupted. -/
structure InterruptedBy (machine : Machine) (fault : Fault) (after : Machine) : Prop where
  rest : after = { machine with
    registers := after.registers, memory := after.memory, terminal := after.terminal }
  tick : after.tick = machine.tick
  state : after.state = .continuing
  condition : after.registers.condition = machine.registers.condition
  others : ∀ name, name ≠ 0 → after.registers.get name = machine.registers.get name
  echoed : ∀ code, machine.EchoFails code → after.registers.get 0 = code
  unechoed : (∀ code, ¬machine.EchoFails code) →
    after.registers.get 0 = machine.registers.get 0
  unfetched : machine.FetchFails → after.registers.pc = machine.registers.pc
  fetched : ¬machine.FetchFails → after.registers.pc = machine.ahead 1
  output : after.terminal.console.chunks = machine.terminal.console.chunks
  cells : ∀ address, address ≠ wordOf machine.keyboard.status →
    address ≠ wordOf machine.keyboard.data → after.memory.get address = machine.memory.get address
  polls : ∃ (readings typed : List Reading) (failure : ConsoleCall),
    after.memory = (readings.map (·.code?)).foldl machine.keyboard.display machine.memory ∧
    Exec.callsOf Exec.step machine = (readings ++ typed).map .read ++ [failure] ∧
    (∀ reading ∈ readings ++ typed, (ConsoleCall.read reading).passedOn? = none) ∧
    failure.passedOn? = some fault ∧
    (∀ code, machine.EchoFails code → typed.map (·.code?) = [some code]) ∧
    ((∀ code, ¬machine.EchoFails code) → typed = [])

end Machine

theorem Machine.EchoFails.of_read {machine fetched : Machine} {word code : Word}
    (echo : machine.EchoFails code)
    (found : Exec.read machine.registers.pc machine = .ok word fetched) :
    Instruction.decode word = .trap 0x23 ∧
      ∃ typed, Terminal.readChar fetched.terminal = .ok (some code) typed ∧ code ≠ 0 ∧
        ∃ fault last, Terminal.print (Text.ofChars [charOf code, '\n']) typed =
          .error fault last := by
  obtain ⟨word', fetched', typed, fault, last, found', input, read, nonzero, failed⟩ := echo
  rw [found, EStateM.Result.ok.injEq] at found'
  obtain ⟨rfl, rfl⟩ := found'
  exact ⟨input, typed, read, nonzero, fault, last, failed⟩

section

variable {machine after : Machine} {fault : Fault}

theorem Stopped.interruptedBy {readings typed : List Reading}
    (stopped : Stopped machine readings typed fault after)
    (working : machine.state = .continuing)
    (failed : Exec.step machine = .error (.fault fault) after)
    (condition : after.registers.condition = machine.registers.condition)
    (others : ∀ name, name ≠ 0 → after.registers.get name = machine.registers.get name)
    (echoed : ∀ code, machine.EchoFails code →
      after.registers.get 0 = code ∧ typed.map (·.code?) = [some code])
    (unechoed : (∀ code, ¬machine.EchoFails code) →
      after.registers.get 0 = machine.registers.get 0 ∧ typed = [])
    (unfetched : machine.FetchFails → after.registers.pc = machine.registers.pc)
    (fetched : ¬machine.FetchFails → after.registers.pc = machine.ahead 1) :
    machine.InterruptedBy fault after := by
  have rest := stopped.rest
  have memory : after.memory =
      (readings.map (·.code?)).foldl machine.keyboard.display machine.memory := by rw [rest]
  obtain ⟨failure, passed, calls⟩ := stopped.calls
  have made : Exec.callsOf Exec.step machine = (readings ++ typed).map .read ++ [failure] := by
    rw [Exec.callsOf_eq (by rw [Exec.leaves_of_error failed, calls]), List.reverse_cons,
      List.reverse_reverse]
  exact {
    rest := by rw [memory]; exact rest
    tick := by rw [rest]
    state := by rw [rest]; exact working
    condition
    others
    echoed := fun code echo => (echoed code echo).1
    unechoed := fun silent => (unechoed silent).1
    unfetched
    fetched
    output := stopped.output_eq
    cells := fun address => stopped.get_memory_of_ne
    polls := ⟨readings, typed, failure, memory, made, stopped.absorbed, passed,
      fun code echo => (echoed code echo).2, fun silent => (unechoed silent).2⟩ }

theorem interruptedBy_of_fetch (working : machine.state = .continuing)
    (failed : Exec.step machine = .error (.fault fault) after)
    (found : Exec.read machine.registers.pc machine = .error (.fault fault) after) :
    machine.InterruptedBy fault after := by
  have polling := Polling.read machine.registers.pc machine
  rw [found] at polling
  obtain ⟨between, ⟨registers, readings, polled⟩, fails⟩ := polling
  have same : after.registers = machine.registers := by rw [fails.rest, registers]
  have silent : ∀ code, ¬machine.EchoFails code := by
    rintro code ⟨_, _, _, _, _, found', _⟩
    rw [found] at found'
    cases found'
  refine (polled.stopped fails).interruptedBy working failed ?_ ?_ ?_ ?_ ?_ ?_
  · rw [same]
  · intro name _
    rw [same]
  · intro code echo
    exact absurd echo (silent code)
  · intro _
    exact ⟨by rw [same], rfl⟩
  · intro _
    rw [same]
  · intro fetched
    exact absurd ⟨_, _, found⟩ fetched

theorem input_eq_error {machine : Machine}
    (failed : Exec.execute (.trap 0x23) machine = .error (.fault fault) after) :
    (∃ terminal, Terminal.readChar machine.terminal = .error fault terminal ∧
      after = { machine with terminal }) ∨
    (∃ code typed last, Terminal.readChar machine.terminal = .ok (some code) typed ∧ code ≠ 0 ∧
      Terminal.print (Text.ofChars [charOf code, '\n']) typed = .error fault last ∧
      after = { machine with terminal := last }.assign 0 code) := by
  change Exec.serve .input machine = _ at failed
  simp only [Exec.serve, Exec.readCharacter, Exec.bind_apply, Exec.atTerminal_apply] at failed
  cases read : Terminal.readChar machine.terminal with
  | error fault' terminal =>
      simp only [read] at failed
      cases failed
      exact .inl ⟨terminal, rfl, rfl⟩
  | ok char typed =>
      simp only [read, Exec.setRegister, Exec.updateRegisters_apply, Exec.pure_apply] at failed
      by_cases nothing : char.getD 0 = 0
      · rw [if_neg (not_not_intro nothing)] at failed
        cases failed
      · cases char with
        | none => exact absurd rfl nothing
        | some code =>
            rw [if_pos nothing] at failed
            simp only [Exec.bind_apply, Exec.printCharacter, Exec.print,
              Exec.atTerminal_apply, Option.getD_some] at failed
            cases printed : Terminal.print (Text.ofChars [charOf code, '\n']) typed with
            | ok _ last => simp [printed] at failed
            | error fault' last =>
                simp only [printed] at failed
                cases failed
                exact .inr ⟨code, typed, last, rfl, nothing, printed, rfl⟩

section

variable {word : Word} {fetched between : Machine} (working : machine.state = .continuing)
  (failed : Exec.step machine = .error (.fault fault) after)
  (found : Exec.read machine.registers.pc machine = .ok word fetched)

include found in
theorem fetch_polled :
    fetched.registers = machine.registers ∧
      ∃ readings, Polled machine readings (fetched.goTo (machine.ahead 1)) := by
  have polling := Polling.read machine.registers.pc machine
  rw [found] at polling
  obtain ⟨registers, readings, polled⟩ := polling
  have moved := polled.append (.of_registers { fetched.registers with pc := machine.ahead 1 })
  rw [List.append_nil] at moved
  exact ⟨registers, readings, moved⟩

include found in
theorem not_fetchFails : ¬machine.FetchFails := by
  rintro ⟨_, _, found'⟩
  rw [found] at found'
  cases found'

include working failed found

theorem interruptedBy_of_polls (polls : OnlyPolled (fetched.goTo (machine.ahead 1)) between)
    (fails : Fails between (.fault fault) after) (silent : ∀ code, ¬machine.EchoFails code) :
    machine.InterruptedBy fault after := by
  obtain ⟨registers, readings, polled⟩ := fetch_polled found
  obtain ⟨registers', later, onward⟩ := polls
  have same : after.registers = { machine.registers with pc := machine.ahead 1 } := by
    rw [fails.rest, registers', ← registers]
    rfl
  refine ((polled.append onward).stopped fails).interruptedBy working failed ?_ ?_ ?_ ?_ ?_ ?_
  · rw [same]
  · intro name _
    rw [same]
    rfl
  · intro code echo
    exact absurd echo (silent code)
  · intro _
    exact ⟨by rw [same]; rfl, rfl⟩
  · intro fetchFails
    exact absurd fetchFails (not_fetchFails found)
  · intro _
    rw [same]

theorem interruptedBy_of_echo {code : Word} {typed last : Terminal}
    (input : Instruction.decode word = .trap 0x23)
    (read : Terminal.readChar fetched.terminal = .ok (some code) typed) (nonzero : code ≠ 0)
    (printed : Terminal.print (Text.ofChars [charOf code, '\n']) typed = .error fault last)
    (left : after = { fetched.goTo (machine.ahead 1) with terminal := last }.assign 0 code) :
    machine.InterruptedBy fault after := by
  obtain ⟨registers, readings, polled⟩ := fetch_polled found
  obtain ⟨reading, typedCode, stopped⟩ := polled.stopped_echo read printed
  rw [← left] at stopped
  have same : after.registers =
      ({ machine.registers with pc := machine.ahead 1 } : Registers).set 0 code := by
    rw [left, ← registers]
    rfl
  have echo : machine.EchoFails code :=
    ⟨word, fetched, typed, fault, last, found, input, read, nonzero, printed⟩
  have only (other : Word) (echo' : machine.EchoFails other) : other = code := by
    obtain ⟨_, typed', read', _⟩ := echo'.of_read found
    rw [read, EStateM.Result.ok.injEq, Option.some.injEq] at read'
    exact read'.1.symm
  refine stopped.interruptedBy working failed ?_ ?_ ?_ ?_ ?_ ?_
  · rw [same]
    rfl
  · intro name other
    rw [same, Registers.get_set_of_ne _ _ other.symm]
    rfl
  · intro other echo'
    rw [only other echo', same, Registers.get_set_self, List.map_singleton, typedCode]
    exact ⟨rfl, rfl⟩
  · intro silent
    exact absurd echo (silent code)
  · intro fetchFails
    exact absurd fetchFails (not_fetchFails found)
  · intro _
    rw [same]
    rfl

theorem interruptedBy_of_execute
    (stopped : Exec.execute (Instruction.decode word) (fetched.goTo (machine.ahead 1)) =
      .error (.fault fault) after) : machine.InterruptedBy fault after := by
  by_cases input : Instruction.decode word = .trap 0x23
  · rw [input] at stopped
    rcases input_eq_error stopped with
      ⟨terminal, unread, rfl⟩ | ⟨code, typed, last, read, nonzero, printed, left⟩
    · refine interruptedBy_of_polls working failed found (.refl _) (.read unread) ?_
      intro code echo
      obtain ⟨_, typed, read, _⟩ := echo.of_read found
      rw [show Terminal.readChar fetched.terminal = _ from unread] at read
      cases read
    · exact interruptedBy_of_echo working failed found input read nonzero printed left
  · obtain ⟨between, polls, fails⟩ := Cautious.execute input _ _ _ stopped
    refine interruptedBy_of_polls working failed found polls fails ?_
    intro code echo
    exact input (echo.of_read found).1

end

end

/-- A step that is interrupted has only polled, moved the program counter and perhaps stored the
character whose echo failed. -/
theorem interrupted_step_leaves_machine {machine after : Machine} {interrupt : Interrupt}
    (reachable : machine.keyboard.Reachable) (working : machine.state = .continuing)
    (failed : Exec.step machine = .error interrupt after) :
    ∃ fault, interrupt = .fault fault ∧ machine.InterruptedBy fault after := by
  have worked := (Exec.step_eq_error_iff working).mp failed
  cases interrupt with
  | endlessString => exact absurd worked (Exec.Built.work.not_endless reachable after)
  | fault fault =>
      refine ⟨fault, rfl, ?_⟩
      rw [Exec.work_apply] at worked
      cases found : Exec.read machine.registers.pc machine with
      | error interrupt' after' =>
          simp only [found] at worked
          cases worked
          exact interruptedBy_of_fetch working failed found
      | ok word fetched =>
          simp only [found] at worked
          exact interruptedBy_of_execute working failed found worked

/-- A string that lies on the keyboard's registers and whose print fails: it is polled first. -/
def Machine.printingKeyboard : Machine :=
  .load ⟨0, [0xF022]⟩ ⟨1, 2⟩ none defaultHaltMessage
    (.ofSourceSink (.script [.line "a"]) (.script [some (.foreign .value "lost")]))

theorem interrupted_print_leaves_machine :
    Machine.printingKeyboard.keyboard.Reachable ∧ Machine.printingKeyboard.state = .continuing ∧
    ∃ after, Exec.step Machine.printingKeyboard = .error (.fault (.foreign .value "lost")) after ∧
      after.memory = (Machine.printingKeyboard.memory.set 1 0x8000).set 2 0x61 ∧
      Machine.printingKeyboard.InterruptedBy (.foreign .value "lost") after := by
  have reachable : Machine.printingKeyboard.keyboard.Reachable := by decide
  obtain ⟨after, failed, memory⟩ : ∃ after,
      Exec.step Machine.printingKeyboard = .error (.fault (.foreign .value "lost")) after ∧
      after.memory = (Machine.printingKeyboard.memory.set 1 0x8000).set 2 0x61 := ⟨_, rfl, rfl⟩
  obtain ⟨fault, ⟨⟩, interrupted⟩ := interrupted_step_leaves_machine reachable rfl failed
  exact ⟨reachable, rfl, after, failed, memory, interrupted⟩

end Lc3
