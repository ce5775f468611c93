import Lc3.Proofs.RunStops

/-!
A machine stays whole whatever is asked of it. Main statement: after any requests to a machine as it
was built, with numbers of any size, its registers and cells are words, and a request fails by a
failure that the console passed on or is refused for the number of its register, and by nothing
else.
-/

namespace Lc3

/-- A machine as it looks from outside, where registers and cells have numbers. -/
structure Machine.WellFormed (machine : Machine) : Prop where
  count : machine.registers.general.toList.length = 8
  numbered : ∀ number, (∃ word, machine.registers.getAt number = .ok word) ↔
    -8 ≤ number ∧ number ≤ 7
  registers : ∀ number word, machine.registers.getAt number = .ok word →
    0 ≤ (word.toNat : Int) ∧ (word.toNat : Int) ≤ 65535
  size : (machine.memory.slice 0 Memory.size).length = 65536
  cells : ∀ word ∈ machine.memory.slice 0 Memory.size,
    0 ≤ (word.toNat : Int) ∧ (word.toNat : Int) ≤ 65535
  pc : 0 ≤ (machine.registers.pc.toNat : Int) ∧ (machine.registers.pc.toNat : Int) ≤ 65535
  condition : machine.registers.condition ∈ Condition.all

namespace Registers

theorem registerAt_eq_ok (missing : RegisterError) {number : Int}
    (inside : -8 ≤ number ∧ number ≤ 7) :
    registerAt missing number = .ok (BitVec.ofInt 3 number) := by
  have found : Register.ofInt? number = some (BitVec.ofInt 3 number) := by
    rw [Register.ofInt?, if_pos ⟨inside.1, by omega⟩]
  rw [registerAt, found]

theorem registerAt_eq_error (missing : RegisterError) {number : Int}
    (outside : ¬(-8 ≤ number ∧ number ≤ 7)) :
    ∃ error, registerAt missing number = .error error := by
  have none : Register.ofInt? number = none := by
    rw [Register.ofInt?, if_neg fun inside => outside ⟨inside.1, by omega⟩]
  rw [registerAt, none]
  simp only []
  split
  · exact ⟨_, rfl⟩
  · exact ⟨_, rfl⟩

theorem getAt_of_inside (registers : Registers) {number : Int}
    (inside : -8 ≤ number ∧ number ≤ 7) :
    registers.getAt number = .ok (registers.get (BitVec.ofInt 3 number)) := by
  rw [getAt, registerAt_eq_ok _ inside]
  rfl

theorem exists_getAt_iff (registers : Registers) (number : Int) :
    (∃ word, registers.getAt number = .ok word) ↔ -8 ≤ number ∧ number ≤ 7 := by
  constructor
  · rintro ⟨word, found⟩
    refine Classical.byContradiction fun outside => ?_
    obtain ⟨error, missing⟩ := registerAt_eq_error .noneToRead outside
    rw [getAt, missing] at found
    cases found
  · intro inside
    exact ⟨_, registers.getAt_of_inside inside⟩

end Registers

theorem Machine.wellFormed (machine : Machine) : machine.WellFormed where
  count := by simp
  numbered := machine.registers.exists_getAt_iff
  registers := by
    intro _ word _
    have bound := word.isLt
    omega
  size := by
    simp [Memory.slice, Memory.position, Memory.size]
  cells := by
    intro word _
    have bound := word.isLt
    omega
  pc := by
    have bound := machine.registers.pc.isLt
    omega
  condition := by
    cases machine.registers.condition <;> decide

/-! Actions that nothing but the console can stop. -/

-- The keyboard is kept track of because a string is sure to end only where the walk over it can
-- reach the status register.

/-- The keyboard stays where it is, and no call that was made passes its failure on. -/
def Undisturbed (machine after : Machine) : Prop :=
  after.keyboard = machine.keyboard ∧ CallsOnward machine after

namespace Undisturbed

theorem refl (machine : Machine) : Undisturbed machine machine :=
  ⟨rfl, callsOnward_stable.refl machine⟩

theorem trans {first second third : Machine} (onward : Undisturbed first second)
    (further : Undisturbed second third) : Undisturbed first third :=
  ⟨further.1.trans onward.1, callsOnward_stable.trans onward.2 further.2⟩

end Undisturbed

def BrokenOff (machine : Machine) (fault : Fault) (after : Machine) : Prop :=
  after.keyboard = machine.keyboard ∧ StoppedByCall machine fault after

theorem BrokenOff.later {machine between after : Machine} {fault : Fault}
    (onward : Undisturbed machine between) (broken : BrokenOff between fault after) :
    BrokenOff machine fault after :=
  ⟨broken.1.trans onward.1, .later onward.2 broken.2⟩

def EndsSoundly (machine : Machine) : EStateM.Result Interrupt Machine α → Prop
  | .ok _ after => Undisturbed machine after
  | .error interrupt after => ∃ fault, interrupt = .fault fault ∧ BrokenOff machine fault after

theorem EndsSoundly.later {machine between : Machine}
    {result : EStateM.Result Interrupt Machine α} (onward : Undisturbed machine between)
    (sound : EndsSoundly between result) : EndsSoundly machine result := by
  cases result with
  | ok value after => exact onward.trans sound
  | error interrupt after =>
      obtain ⟨fault, passed, broken⟩ := sound
      exact ⟨fault, passed, broken.later onward⟩

def Dependable (action : Exec α) : Prop :=
  ∀ machine, machine.keyboard.Reachable → EndsSoundly machine (action machine)

namespace Dependable

theorem pure (value : α) : Dependable (pure value) := by
  intro machine _
  exact .refl machine

theorem bind {action : Exec α} {next : α → Exec β} (first : Dependable action)
    (rest : ∀ value, Dependable (next value)) : Dependable (action >>= next) := by
  intro machine reachable
  have sound := first machine reachable
  rw [Exec.bind_apply]
  cases done : action machine with
  | error interrupt after =>
      rw [done] at sound
      exact sound
  | ok value between =>
      rw [done] at sound
      have again : between.keyboard.Reachable := sound.1 ▸ reachable
      exact (rest value between again).later sound

theorem of_built {action : Exec α} (built : Exec.Built action) : Dependable action := by
  intro machine reachable
  cases done : action machine with
  | ok value after =>
      obtain ⟨_, _, _, rfl⟩ := built.frame done
      exact ⟨rfl, built.kept_of_ok callsOnward_stable done⟩
  | error interrupt after =>
      obtain ⟨_, ⟨_, _, _, rfl⟩, fails⟩ := built.stopped sameFrame_stable done
      have keyboard : after.keyboard = machine.keyboard := by
        cases fails <;> rfl
      obtain ⟨fault, rfl, stopped⟩ := built.stoppedByCall reachable done
      exact ⟨fault, rfl, keyboard, stopped⟩

theorem step : Dependable Exec.step := by
  intro machine reachable
  by_cases working : machine.state = .continuing
  · have sound := of_built .work machine reachable
    rw [Exec.step_of_continuing working]
    cases worked : Exec.work machine with
    | ok outcome done =>
        rw [worked] at sound
        exact sound
    | error interrupt after =>
        rw [worked] at sound
        exact sound
  · rw [Exec.step_of_ended working]
    exact .refl machine

end Dependable

theorem Machine.rested_undisturbed (machine : Machine) : Undisturbed machine machine.rested := by
  have noted : Undisturbed machine machine.limitNoted := by
    rw [limitNoted_eq]
    exact .refl machine
  unfold rested
  split
  · exact noted
  · exact .refl machine

/-- What every step keeps, a run keeps. -/
theorem RunEnds.endsSoundly {machine : Machine} {count : Nat}
    {result : EStateM.Result Interrupt Machine Outcome} (ends : RunEnds machine count result)
    (reachable : machine.keyboard.Reachable) : EndsSoundly machine result := by
  induction ends with
  | @rests machine _ => exact machine.rested_undisturbed
  | @ended machine _ _ _ step _ =>
      have sound := Dependable.step machine reachable
      rwa [step] at sound
  | @failed machine _ _ _ step =>
      have sound := Dependable.step machine reachable
      rwa [step] at sound
  | @onward machine next _ _ _ step _ ih =>
      have sound := Dependable.step machine reachable
      rw [step] at sound
      have again : next.keyboard.Reachable := sound.1 ▸ reachable
      exact (ih again).later sound

namespace Dependable

theorem run : Dependable Exec.run := by
  intro machine reachable
  rw [Exec.run]
  cases ran : machine.runOn with
  -- A run without end gives nothing and, having no last machine, leaves the first one.
  | none => exact .refl machine
  | some result =>
      obtain ⟨count, ends⟩ := Exec.runEnds_of_runOn ran
      have sound := ends.endsSoundly reachable
      cases result with
      | ok outcome after => exact sound
      | error interrupt after => exact sound

theorem tryRegisters (change : Registers → Except RegisterError Registers) :
    Dependable (Exec.tryRegisters change) := by
  intro machine _
  rw [Exec.tryRegisters]
  cases change machine.registers with
  | ok registers => exact .refl machine
  | error error => exact .refl machine

theorem perform (request : Request) : Dependable (Exec.perform request) := by
  cases request with
  | step => exact .bind .step fun _ => .pure _
  | run => exact .bind .run fun _ => .pure _
  | trap vector => exact .bind (.of_built (.trap vector)) fun _ => .pure _
  | read address => exact .bind (.of_built (.read _)) fun _ => .pure _
  | write address value => exact .bind (.of_built (.write _ _)) fun _ => .pure _
  | setRegister number value => exact tryRegisters (·.setAt number value)
  | flag number => exact tryRegisters (·.flagAt number)
  | setPc value => exact .bind (.of_built (.registers _)) fun _ => .pure _
  | renew => exact .bind (fun machine _ => .refl machine) fun _ => .pure _

end Dependable

theorem Exec.performAll_reachable {machine : Machine} (reachable : machine.keyboard.Reachable)
    (requests : List Request) : (performAll requests machine).2.keyboard.Reachable := by
  induction requests generalizing machine with
  | nil => exact reachable
  | cons request requests ih =>
      have sound := Dependable.perform request machine reachable
      rw [performAll]
      cases performed : perform request machine with
      | ok answer next =>
          rw [performed] at sound
          exact ih (sound.1 ▸ reachable)
      | error interrupt next =>
          rw [performed] at sound
          obtain ⟨_, _, keyboard, _⟩ := sound
          exact ih (keyboard ▸ reachable)

/-! What requests by number come to. -/

namespace Request

def register? : Request → Option Int
  | .setRegister number _ | .flag number => some number
  | .step | .run | .trap _ | .read _ | .write _ _ | .setPc _ | .renew => none

/-- The caller gave a number that no register has. -/
def Misnumbered (request : Request) : Prop :=
  ∃ number, request.register? = some number ∧ ¬(-8 ≤ number ∧ number ≤ 7)

/-- A number that was stored is there modulo 65536, and a flag that was set is the sign of its
register. -/
def Stored (after : Machine) : Request → Prop
  | .write address value => ∃ cell, (cell.toNat : Int) = address % 65536 ∧
      ((after.memory.get cell).toNat : Int) = value % 65536
  | .setRegister number value => ∃ word, after.registers.getAt number = .ok word ∧
      (word.toNat : Int) = value % 65536
  | .setPc value => (after.registers.pc.toNat : Int) = value % 65536
  | .flag number => ∃ word, after.registers.getAt number = .ok word ∧
      after.registers.condition = signOf word
  | .step | .run | .trap _ | .read _ | .renew => True

/-- How a request is met: it is refused and nothing happens, or it is done, or the failure of a
call that was passed on stops it. -/
inductive Met (request : Request) (machine : Machine) :
    EStateM.Result Interrupt Machine Answer → Prop
  | refused {error : RegisterError} (misnumbered : request.Misnumbered) :
      Met request machine (.ok (.refused error) machine)
  | done {answer : Answer} {after : Machine} (numbered : ¬request.Misnumbered)
      (accepted : ∀ error, answer ≠ .refused error) (stored : request.Stored after)
      (absorbed : ∀ call ∈ Exec.callsOf (Exec.perform request) machine, call.passedOn? = none) :
      Met request machine (.ok answer after)
  | stopped {fault : Fault} {after : Machine} {made : List ConsoleCall} {call : ConsoleCall}
      (numbered : ¬request.Misnumbered)
      (calls : Exec.callsOf (Exec.perform request) machine = made ++ [call])
      (absorbed : ∀ earlier ∈ made, earlier.passedOn? = none)
      (passed : call.passedOn? = some fault) :
      Met request machine (.error (.fault fault) after)

end Request

namespace Exec

variable {machine after : Machine} {request : Request}

/-- A request is refused just for the number of its register, and then nothing happens. -/
theorem refused_of_misnumbered (misnumbered : request.Misnumbered) :
    ∃ error, perform request machine = .ok (.refused error) machine := by
  obtain ⟨number, asked, outside⟩ := misnumbered
  cases request with
  | setRegister number value =>
      cases asked
      obtain ⟨error, missing⟩ := Registers.registerAt_eq_error .noneToSet outside
      refine ⟨error, ?_⟩
      rw [perform, tryRegisters, Registers.setAt, missing]
      rfl
  | flag number =>
      cases asked
      obtain ⟨error, missing⟩ := Registers.registerAt_eq_error .noneToRead outside
      refine ⟨error, ?_⟩
      rw [perform, tryRegisters, Registers.flagAt, missing]
      rfl
  | _ => cases asked

theorem stored_of_ok {answer : Answer} (numbered : ¬request.Misnumbered)
    (performed : perform request machine = .ok answer after) :
    (∀ error, answer ≠ .refused error) ∧ request.Stored after := by
  have inside (number : Int) (asked : request.register? = some number) :
      -8 ≤ number ∧ number ≤ 7 :=
    Classical.byContradiction fun outside => numbered ⟨number, asked, outside⟩
  cases request with
  | step | run | trap _ | read _ | renew =>
      obtain ⟨_, _, _, answered⟩ := bind_eq_ok_iff.mp performed
      cases answered
      exact ⟨nofun, trivial⟩
  | write address value =>
      simp only [perform, bind_apply, write_apply, pure_apply] at performed
      cases performed
      refine ⟨nofun, wordOf address, toNat_wordOf address, ?_⟩
      rw [Memory.get_set_self]
      exact toNat_wordOf value
  | setPc value =>
      simp only [perform, bind_apply, jump, updateRegisters_apply, pure_apply] at performed
      cases performed
      exact ⟨nofun, toNat_wordOf value⟩
  | setRegister number value =>
      have inside := inside number rfl
      rw [perform, tryRegisters, Registers.setAt, Registers.registerAt_eq_ok _ inside] at performed
      cases performed
      refine ⟨nofun, wordOf value, ?_, toNat_wordOf value⟩
      rw [Registers.getAt_of_inside _ inside, Registers.get_set_self]
  | flag number =>
      have inside := inside number rfl
      rw [perform, tryRegisters, Registers.flagAt, Registers.registerAt_eq_ok _ inside] at performed
      cases performed
      exact ⟨nofun, _, Registers.getAt_of_inside _ inside, ofWord_eq_signOf _⟩

end Exec

theorem Request.met (request : Request) {machine : Machine}
    (reachable : machine.keyboard.Reachable) :
    request.Met machine (Exec.perform request machine) := by
  by_cases misnumbered : request.Misnumbered
  · obtain ⟨error, refused⟩ := Exec.refused_of_misnumbered misnumbered
    rw [refused]
    exact .refused misnumbered
  · have sound := Dependable.perform request machine reachable
    cases performed : Exec.perform request machine with
    | ok answer after =>
        rw [performed, ← Exec.leaves_of_ok performed] at sound
        obtain ⟨accepted, stored⟩ := Exec.stored_of_ok misnumbered performed
        exact .done misnumbered accepted stored sound.2.callsOf
    | error interrupt after =>
        rw [performed, ← Exec.leaves_of_error performed] at sound
        obtain ⟨fault, rfl, _, stopped⟩ := sound
        obtain ⟨made, call, calls, absorbed, passed⟩ := stopped.callsOf
        exact .stopped misnumbered calls absorbed passed

/-- Requests never break a machine, and none of them fails by the machine itself. -/
theorem requests_keep_machine_whole {files : Files} {image config : Value} {console : Console}
    {machine : Machine} (built : build files image config console = .ok machine)
    (earlier : List Request) (request : Request) :
    let before := (Exec.performAll earlier machine).2
    before.WellFormed ∧ request.Met before (Exec.perform request before) ∧
      (Exec.leaves (Exec.perform request) before).WellFormed := by
  intro before
  obtain ⟨program, settings, rfl, _⟩ := build_eq_ok built
  have reachable := (Machine.ofConfig_proper program settings console).reachable
  have still : before.keyboard.Reachable := Exec.performAll_reachable reachable earlier
  exact ⟨before.wellFormed, request.met still, Machine.wellFormed _⟩

def Request.outOfRange : List Request :=
  [.write 65537 (-1), .setRegister 8 0, .setRegister (-1) 65536]

/-- Numbers out of range are stored or refused, and then the console breaks an instruction off. -/
theorem refused_number_keeps_machine_whole :
    ∃ machine after,
      build ⟨[]⟩ (.bytes .constant [0, 0, 0xF0, 0x20]) .null
        (.ofSourceSink (.script [.failure (.foreign .value "lost")]) .full) = .ok machine ∧
      let (answers, before) := Exec.performAll Request.outOfRange machine
      answers = [.ok .done, .ok (.refused .noneToSet), .ok .done] ∧
      Exec.perform .step before = .error (.fault (.foreign .value "lost")) after ∧
      before.WellFormed ∧ Request.Met .step before (Exec.perform .step before) ∧
      after.WellFormed := by
  have built : build ⟨[]⟩ (.bytes .constant [0, 0, 0xF0, 0x20]) .null
      (.ofSourceSink (.script [.failure (.foreign .value "lost")]) .full) = .ok _ := rfl
  exact ⟨_, _, built, rfl, rfl, requests_keep_machine_whole built Request.outOfRange .step⟩

end Lc3
