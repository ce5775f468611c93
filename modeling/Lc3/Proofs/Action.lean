import Lc3.Machine.Execution

/-!
How actions are put together. An action is a function of the machine, and everything that an
instruction does is built from a few primitive actions. What holds of these and is kept by doing
one action after another holds of every instruction.
-/

namespace Lc3.Exec

@[simp] theorem pure_apply (value : α) (machine : Machine) :
    (pure value : Exec α) machine = .ok value machine := rfl

/-- The second of two actions starts where the first one ended, unless that was interrupted. -/
theorem bind_apply (action : Exec α) (next : α → Exec β) (machine : Machine) :
    (action >>= next) machine =
      match action machine with
      | .ok value after => next value after
      | .error interrupt after => .error interrupt after := by
  change EStateM.bind action next machine = _
  rw [EStateM.bind]
  cases action machine <;> rfl

theorem bind_eq_ok_iff {action : Exec α} {next : α → Exec β} {machine after : Machine}
    {result : β} :
    (action >>= next) machine = .ok result after ↔
      ∃ value between, action machine = .ok value between ∧
        next value between = .ok result after := by
  rw [bind_apply]
  cases action machine with
  | ok value between =>
      constructor
      · intro rest
        exact ⟨value, between, rfl, rest⟩
      · rintro ⟨_, _, ⟨⟩, rest⟩
        exact rest
  | error interrupt between => simp

@[simp] theorem atTerminal_apply (action : EStateM Fault Terminal α) (machine : Machine) :
    atTerminal action machine =
      match action machine.terminal with
      | .ok result terminal => .ok result { machine with terminal }
      | .error fault terminal => .error (.fault fault) { machine with terminal } := rfl

@[simp] theorem updateRegisters_apply (change : Registers → Registers) (machine : Machine) :
    updateRegisters change machine =
      .ok () { machine with registers := change machine.registers } := rfl

@[simp] theorem write_apply (address value : Word) (machine : Machine) :
    write address value machine =
      .ok () { machine with memory := machine.memory.set address value } := rfl

/-- Actions put together from what an instruction can do: look at anything but the terminal, change
registers and cells, read a character or a string, print, and log a halt or an unknown trap. -/
inductive Built : {α : Type} → Exec α → Prop
  | pure {α : Type} (value : α) : Built (pure value)
  | bind {α β : Type} {action : Exec α} {next : α → Exec β} :
      Built action → (∀ value, Built (next value)) → Built (action >>= next)
  | inspect {α : Type} (project : Machine → α)
      (blind : ∀ machine terminal, project { machine with terminal } = project machine) :
      Built (view project)
  | registers (change : Registers → Registers) : Built (updateRegisters change)
  | write (address value : Word) : Built (write address value)
  | halted (steps : Int) : Built (note (.halted steps))
  | unknownTrap (vector : Int) (pc : Word) : Built (note (.unknownTrap vector pc))
  | readChar : Built (atTerminal Terminal.readChar)
  | print (text : Text) : Built (print text)
  | string (address : Word) : Built (readString address)

namespace Built

theorem pc : Built pc := .inspect _ fun _ _ => rfl

theorem register (name : Register) : Built (register name) := .inspect _ fun _ _ => rfl

theorem poll : Built poll := by
  refine .bind .readChar fun char => .bind (.inspect _ fun _ _ => rfl) fun keyboard => ?_
  split
  · exact .write _ _
  · exact .write _ _
  · exact .bind (.write _ _) fun _ => .write _ _

theorem read (address : Word) : Built (read address) := by
  have stored : Built (view (·.memory.get address)) := .inspect _ fun _ _ => rfl
  refine .bind (.inspect _ fun _ _ => rfl) fun status => ?_
  split
  · exact .bind poll fun _ => stored
  · exact stored

theorem relative (offset : BitVec n) : Built (relative offset) :=
  .bind pc fun _ => .pure _

theorem based (base : Register) (offset : BitVec 6) : Built (based base offset) :=
  .bind (register base) fun _ => .pure _

theorem operand : (second : Operand) → Built (operand second)
  | .register source => register source
  | .immediate _ => .pure _

theorem readCharacter : Built readCharacter :=
  .bind .readChar fun _ => .bind (.registers _) fun _ => .pure _

theorem serve (service : Service) : Built (serve service) := by
  cases service with
  | getc => exact .bind (.bind readCharacter fun _ => .pure _) fun _ => .pure _
  | out => exact .bind (register 0) fun _ => .bind (.print _) fun _ => .pure _
  | puts =>
      exact .bind (register 0) fun _ => .bind (.string _) fun _ => .bind (.print _) fun _ => .pure _
  | input =>
      refine .bind readCharacter fun code => ?_
      split
      · exact .bind (.print _) fun _ => .pure _
      · exact .pure _
  | putsp =>
      exact .bind (register 0) fun _ => .bind (.string _) fun _ => .bind (.print _) fun _ => .pure _
  | halt =>
      refine .bind (.inspect _ fun _ _ => rfl) fun _ => .bind (.print _) fun _ => ?_
      exact .bind (.inspect _ fun _ _ => rfl) fun _ => .bind (.halted _) fun _ => .pure _

theorem trap (vector : Int) : Built (trap vector) := by
  unfold Exec.trap
  split
  · exact serve _
  · exact .bind pc fun _ => .bind (.unknownTrap _ _) fun _ => .pure _

theorem execute (instruction : Instruction) : Built (execute instruction) := by
  cases instruction with
  | branch mask offset =>
      refine .bind (.inspect _ fun _ _ => rfl) fun condition => ?_
      split
      · exact .bind (relative offset) fun _ => .bind (.registers _) fun _ => .pure _
      · exact .pure _
  | add destination source second =>
      exact .bind (register source) fun _ => .bind (operand second) fun _ =>
        .bind (.registers _) fun _ => .pure _
  | and destination source second =>
      exact .bind (register source) fun _ => .bind (operand second) fun _ =>
        .bind (.registers _) fun _ => .pure _
  | not destination source =>
      exact .bind (register source) fun _ => .bind (.registers _) fun _ => .pure _
  | load destination offset =>
      exact .bind (relative offset) fun _ => .bind (read _) fun _ =>
        .bind (.registers _) fun _ => .pure _
  | loadIndirect destination offset =>
      exact .bind (relative offset) fun _ => .bind (read _) fun _ => .bind (read _) fun _ =>
        .bind (.registers _) fun _ => .pure _
  | loadBase destination base offset =>
      exact .bind (based base offset) fun _ => .bind (read _) fun _ =>
        .bind (.registers _) fun _ => .pure _
  | loadAddress destination offset =>
      exact .bind (relative offset) fun _ => .bind (.registers _) fun _ => .pure _
  | store source offset =>
      exact .bind (relative offset) fun _ => .bind (register source) fun _ =>
        .bind (.write _ _) fun _ => .pure _
  | storeIndirect source offset =>
      exact .bind (relative offset) fun _ => .bind (read _) fun _ =>
        .bind (register source) fun _ => .bind (.write _ _) fun _ => .pure _
  | storeBase source base offset =>
      exact .bind (based base offset) fun _ => .bind (register source) fun _ =>
        .bind (.write _ _) fun _ => .pure _
  | jump base => exact .bind (register base) fun _ => .bind (.registers _) fun _ => .pure _
  | call offset =>
      exact .bind pc fun _ => .bind (.registers _) fun _ => .bind (relative offset) fun _ =>
        .bind (.registers _) fun _ => .pure _
  | callRegister base =>
      exact .bind pc fun _ => .bind (.registers _) fun _ => .bind (register base) fun _ =>
        .bind (.registers _) fun _ => .pure _
  | unused => exact .pure _
  | trap vector => exact trap _

theorem fetch : Built fetch :=
  .bind pc fun _ => .bind (read _) fun _ => .bind (.registers _) fun _ => .pure _

end Built

/-- What a step does before it is counted. -/
def work : Exec Outcome := do execute (← fetch)

theorem Built.work : Built work := .bind .fetch fun instruction => .execute instruction

theorem step_of_continuing {machine : Machine} (working : machine.state = .continuing) :
    step machine =
      match work machine with
      | .ok outcome done => .ok outcome { done with tick := done.tick + 1, state := outcome }
      | .error interrupt done => .error interrupt done := by
  simp only [step, Exec.work, bind_apply, view_apply, working]
  cases fetch machine with
  | error interrupt done => rfl
  | ok instruction fetched =>
      simp only []
      cases execute instruction fetched <;> rfl

theorem step_eq_ok_iff {machine after : Machine} {outcome : Outcome}
    (working : machine.state = .continuing) :
    step machine = .ok outcome after ↔
      ∃ done, work machine = .ok outcome done ∧
        after = { done with tick := done.tick + 1, state := outcome } := by
  rw [step_of_continuing working]
  cases work machine with
  | error interrupt done => simp
  | ok result done =>
      constructor
      · rintro ⟨⟩
        exact ⟨done, rfl, rfl⟩
      · rintro ⟨_, ⟨⟩, rfl⟩
        rfl

theorem step_eq_error_iff {machine after : Machine} {interrupt : Interrupt}
    (working : machine.state = .continuing) :
    step machine = .error interrupt after ↔ work machine = .error interrupt after := by
  rw [step_of_continuing working]
  cases work machine <;> simp

theorem step_of_ended {machine : Machine} (ended : machine.state ≠ .continuing) :
    step machine = .ok machine.state machine := by
  simp only [step, bind_apply, view_apply]
  cases state : machine.state with
  | continuing => exact absurd state ended
  | halted => rfl
  | faulted => rfl

end Lc3.Exec
