import Lc3.Proofs.Frame

/-!
The calls that an action makes of the console. An action is stopped by the first of them whose
failure is passed on, and by nothing else.
-/

namespace Lc3

/-- The failure that a call passes on to whoever runs the machine. -/
def ConsoleCall.passedOn? : ConsoleCall → Option Fault
  | .read (.failure fault) => if fault.absorbedByRead then none else some fault
  | .write _ (some fault) => if fault.absorbedByWrite then none else some fault
  | .read (.line _) | .write _ none => none

/-- The code of the character that a read yields, if it yields one. -/
def Reading.code? : Reading → Option Word
  | .line text => Terminal.firstCode text
  | .failure _ => none

def Machine.calls (machine : Machine) : List ConsoleCall := machine.terminal.console.calls

namespace Exec

def leaves (action : Exec α) (machine : Machine) : Machine :=
  match action machine with
  | .ok _ after | .error _ after => after

theorem leaves_of_ok {action : Exec α} {machine after : Machine} {value : α}
    (ended : action machine = .ok value after) : leaves action machine = after := by
  rw [leaves, ended]

theorem leaves_of_error {action : Exec α} {machine after : Machine} {interrupt : Interrupt}
    (failed : action machine = .error interrupt after) : leaves action machine = after := by
  rw [leaves, failed]

theorem leaves_bind_of_ok {action : Exec α} {next : α → Exec β} {machine between : Machine}
    {value : α} (ended : action machine = .ok value between) :
    leaves (action >>= next) machine = leaves (next value) between := by
  rw [leaves, bind_apply, ended]
  rfl

theorem leaves_bind_of_error {action : Exec α} {next : α → Exec β} {machine after : Machine}
    {interrupt : Interrupt} (failed : action machine = .error interrupt after) :
    leaves (action >>= next) machine = after := by
  rw [leaves, bind_apply, failed]

/-- The end of an action that prints: the text was written, and only a failure that is passed on
keeps the action from going on. -/
theorem print_continuing (text : Text) (machine : Machine) :
    let call := ConsoleCall.write text (machine.terminal.console.write text).1
    ∃ last : Terminal, last.console.calls = call :: machine.calls ∧
      leaves (do print text; return Outcome.continuing) machine =
        { machine with terminal := last } ∧
      (call.passedOn? = none →
        (do print text; return Outcome.continuing : Exec Outcome) machine =
          .ok .continuing { machine with terminal := last }) := by
  have applied : (do print text; return Outcome.continuing : Exec Outcome) machine =
      match Terminal.print text machine.terminal with
      | .ok _ terminal => .ok .continuing { machine with terminal }
      | .error fault terminal => .error (.fault fault) { machine with terminal } := by
    rw [bind_apply, print, atTerminal_apply]
    cases Terminal.print text machine.terminal <;> rfl
  have calls := Console.calls_write machine.terminal.console text
  have prints := machine.terminal.prints text
  generalize Terminal.print text machine.terminal = result at prints applied
  cases prints with
  | taken put =>
      rw [put] at calls ⊢
      exact ⟨_, calls, leaves_of_ok applied, fun _ => applied⟩
  | absorbed put =>
      rw [put] at calls ⊢
      exact ⟨_, calls, leaves_of_ok applied, fun _ => applied⟩
  | passedOn put passed =>
      rw [put] at calls ⊢
      refine ⟨_, calls, leaves_of_error applied, fun absorbed => ?_⟩
      simp [ConsoleCall.passedOn?, passed] at absorbed

/-- The calls that an action makes, in order. -/
def callsOf (action : Exec α) (machine : Machine) : List ConsoleCall :=
  let calls := (leaves action machine).calls
  (calls.take (calls.length - machine.calls.length)).reverse

theorem callsOf_eq {action : Exec α} {machine : Machine} {made : List ConsoleCall}
    (more : (leaves action machine).calls = made ++ machine.calls) :
    callsOf action machine = made.reverse := by
  simp [callsOf, more]

end Exec

theorem Terminal.readChar_call (terminal : Terminal) :
    ∃ reading, match readChar terminal with
      | .ok char after =>
        after.console.calls = .read reading :: terminal.console.calls ∧
          (ConsoleCall.read reading).passedOn? = none ∧ char = reading.code?
      | .error fault after =>
        after.console.calls = .read reading :: terminal.console.calls ∧
          (ConsoleCall.read reading).passedOn? = some fault := by
  have calls := Console.calls_readLine terminal.console
  have reads := terminal.readsChar
  generalize readChar terminal = result at reads ⊢
  cases reads with
  | @line line console taken =>
      rw [taken] at calls
      exact ⟨.line line, calls, rfl, rfl⟩
  | @absorbed fault console taken absorbed =>
      rw [taken] at calls
      exact ⟨.failure fault, calls, by simp [ConsoleCall.passedOn?, absorbed], rfl⟩
  | @passedOn fault console taken absorbed =>
      rw [taken] at calls
      exact ⟨.failure fault, calls, by simp [ConsoleCall.passedOn?, absorbed]⟩

theorem Terminal.print_call (text : Text) (terminal : Terminal) :
    ∃ call, match print text terminal with
      | .ok _ after =>
        after.console.calls = call :: terminal.console.calls ∧ call.passedOn? = none
      | .error fault after =>
        after.console.calls = call :: terminal.console.calls ∧ call.passedOn? = some fault := by
  have calls := Console.calls_write terminal.console text
  have prints := terminal.prints text
  generalize print text terminal = result at prints ⊢
  cases prints with
  | @taken console put =>
      rw [put] at calls
      exact ⟨.write text none, calls, rfl⟩
  | @absorbed fault console put absorbed =>
      rw [put] at calls
      exact ⟨.write text (some fault), calls, by simp [ConsoleCall.passedOn?, absorbed]⟩
  | @passedOn fault console put absorbed =>
      rw [put] at calls
      exact ⟨.write text (some fault), calls, by simp [ConsoleCall.passedOn?, absorbed]⟩

def CallsOnward (machine after : Machine) : Prop :=
  ∃ made, after.calls = made ++ machine.calls ∧ ∀ call ∈ made, call.passedOn? = none

theorem callsOnward_of_call {machine after : Machine} {call : ConsoleCall}
    (calls : after.calls = call :: machine.calls) (absorbed : call.passedOn? = none) :
    CallsOnward machine after := ⟨[call], calls, by simpa using absorbed⟩

theorem callsOnward_stable : Stable CallsOnward where
  refl _ := ⟨[], rfl, by simp⟩
  trans := by
    rintro first second third ⟨made, firstCalls, firstAbsorbed⟩ ⟨more, calls, absorbed⟩
    refine ⟨more ++ made, by rw [calls, firstCalls, List.append_assoc], ?_⟩
    intro call member
    exact (List.mem_append.mp member).elim (absorbed call) (firstAbsorbed call)
  registers _ _ := ⟨[], rfl, by simp⟩
  memory _ _ := ⟨[], rfl, by simp⟩
  readChar := by
    intro machine char terminal found
    obtain ⟨reading, done⟩ := machine.terminal.readChar_call
    rw [found] at done
    exact callsOnward_of_call done.1 done.2.1
  print := by
    intro machine text terminal taken
    obtain ⟨call, done⟩ := machine.terminal.print_call text
    rw [taken] at done
    exact callsOnward_of_call done.1 done.2
  halted _ _ := ⟨[], rfl, by simp⟩
  unknownTrap _ _ _ := ⟨[], rfl, by simp⟩

/-- The last call that was made passes this fault on, and no call before it does. -/
def StoppedByCall (machine : Machine) (fault : Fault) (after : Machine) : Prop :=
  ∃ call made, after.calls = call :: (made ++ machine.calls) ∧
    (∀ earlier ∈ made, earlier.passedOn? = none) ∧ call.passedOn? = some fault

namespace StoppedByCall

variable {machine between after : Machine} {fault : Fault}

theorem of_call {call : ConsoleCall} (calls : after.calls = call :: machine.calls)
    (passed : call.passedOn? = some fault) : StoppedByCall machine fault after :=
  ⟨call, [], calls, by simp, passed⟩

theorem later (onward : CallsOnward machine between)
    (stopped : StoppedByCall between fault after) : StoppedByCall machine fault after := by
  obtain ⟨made, before, absorbed⟩ := onward
  obtain ⟨call, more, calls, alsoAbsorbed, passed⟩ := stopped
  refine ⟨call, more ++ made, by rw [calls, before, List.append_assoc], ?_, passed⟩
  intro earlier member
  exact (List.mem_append.mp member).elim (alsoAbsorbed earlier) (absorbed earlier)

theorem callsOf {action : Exec α}
    (stopped : StoppedByCall machine fault (Exec.leaves action machine)) :
    ∃ made call, Exec.callsOf action machine = made ++ [call] ∧
      (∀ earlier ∈ made, earlier.passedOn? = none) ∧ call.passedOn? = some fault := by
  obtain ⟨call, made, calls, absorbed, passed⟩ := stopped
  have inOrder : Exec.callsOf action machine = made.reverse ++ [call] := by
    rw [← List.reverse_cons]
    exact Exec.callsOf_eq calls
  refine ⟨made.reverse, call, inOrder, ?_, passed⟩
  intro earlier member
  exact absorbed earlier (List.mem_reverse.mp member)

end StoppedByCall

theorem CallsOnward.callsOf {action : Exec α} {machine : Machine}
    (onward : CallsOnward machine (Exec.leaves action machine)) :
    ∀ call ∈ Exec.callsOf action machine, call.passedOn? = none := by
  obtain ⟨made, calls, absorbed⟩ := onward
  intro call member
  rw [Exec.callsOf_eq calls, List.mem_reverse] at member
  exact absorbed call member

theorem Fails.calls {machine after : Machine} {interrupt : Interrupt}
    (fails : Fails machine interrupt after) :
    interrupt = .endlessString ∨
      ∃ fault call, interrupt = .fault fault ∧ after.calls = call :: machine.calls ∧
        call.passedOn? = some fault := by
  cases fails with
  | read failed =>
      obtain ⟨reading, done⟩ := machine.terminal.readChar_call
      rw [failed] at done
      exact .inr ⟨_, .read reading, rfl, done⟩
  | @print text _ _ failed =>
      obtain ⟨call, done⟩ := machine.terminal.print_call text
      rw [failed] at done
      exact .inr ⟨_, call, rfl, done⟩
  | endless => exact .inl rfl

namespace Exec.Built

variable {action : Exec α} {machine : Machine}

theorem stoppedByCall (built : Built action) (reachable : machine.keyboard.Reachable)
    {interrupt : Interrupt} {after : Machine} (failed : action machine = .error interrupt after) :
    ∃ fault, interrupt = .fault fault ∧ StoppedByCall machine fault after := by
  obtain ⟨between, onward, fails⟩ := built.stopped callsOnward_stable failed
  rcases fails.calls with rfl | ⟨fault, call, rfl, calls, passed⟩
  · exact absurd failed (built.not_endless reachable after)
  · exact ⟨fault, rfl, .later onward (.of_call calls passed)⟩

/-- An action of instructions ends well just if none of its calls passes a failure on. -/
theorem ends_iff_calls (built : Built action) (reachable : machine.keyboard.Reachable) :
    (∃ value after, action machine = .ok value after) ↔
      ∀ call ∈ callsOf action machine, call.passedOn? = none := by
  constructor
  · rintro ⟨value, after, ended⟩
    apply CallsOnward.callsOf
    rw [leaves_of_ok ended]
    exact built.kept_of_ok callsOnward_stable ended
  · intro absorbed
    cases done : action machine with
    | ok value after => exact ⟨value, after, rfl⟩
    | error interrupt after =>
        obtain ⟨fault, _, stopped⟩ := built.stoppedByCall reachable done
        rw [← leaves_of_error done] at stopped
        obtain ⟨made, call, calls, _, passed⟩ := stopped.callsOf
        rw [absorbed call (by simp [calls])] at passed
        cases passed

end Exec.Built

namespace Exec

theorem step_ends_iff_work {machine : Machine} (working : machine.state = .continuing) :
    (∃ outcome after, step machine = .ok outcome after) ↔
      ∃ outcome done, work machine = .ok outcome done := by
  rw [step_of_continuing working]
  cases work machine <;> simp

theorem callsOf_step {machine : Machine} (working : machine.state = .continuing) :
    callsOf step machine = callsOf work machine := by
  have same : (leaves step machine).calls = (leaves work machine).calls := by
    rw [leaves, step_of_continuing working, leaves]
    cases work machine <;> rfl
  rw [callsOf, callsOf, same]

theorem step_ends_iff_calls {machine : Machine} (working : machine.state = .continuing)
    (reachable : machine.keyboard.Reachable) :
    (∃ outcome after, step machine = .ok outcome after) ↔
      ∀ call ∈ callsOf step machine, call.passedOn? = none := by
  rw [step_ends_iff_work working, callsOf_step working]
  exact Built.work.ends_iff_calls reachable

end Exec

end Lc3
