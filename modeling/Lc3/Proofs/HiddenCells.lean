import Lc3.Proofs.Effects
import Lc3.Proofs.Lockstep

/-!
Machines that differ in some of their cells. As long as one of them looks at no cell in which they
differ, unless it is the status register, the two do the same. What is stored in the status
register never matters, since every look at it writes it anew.
-/

namespace Lc3

/-- Memories with the same words outside of the hidden addresses. -/
def Memory.AgreeOutside (hidden : Word → Prop) (left right : Memory) : Prop :=
  ∀ address, ¬hidden address → right.get address = left.get address

theorem Memory.AgreeOutside.set {hidden : Word → Prop} {left right : Memory}
    (agree : left.AgreeOutside hidden right) (address value : Word) :
    (left.set address value).AgreeOutside hidden (right.set address value) := by
  intro other shown
  rw [get_set, get_set, agree other shown]

theorem Memory.AgreeOutside.display {hidden : Word → Prop} {left right : Memory}
    (agree : left.AgreeOutside hidden right) (keyboard : Keyboard) (char : Option Word) :
    (keyboard.display left char).AgreeOutside hidden (keyboard.display right char) := by
  unfold Keyboard.display
  simp only []
  split
  · exact agree.set _ _
  · exact (agree.set _ _).set _ _

theorem Keyboard.get_status_display (keyboard : Keyboard) (left right : Memory)
    (char : Option Word) :
    (keyboard.display left char).get (wordOf keyboard.status) =
      (keyboard.display right char).get (wordOf keyboard.status) := by
  unfold display
  simp only []
  split
  · rw [Memory.get_set_self, Memory.get_set_self]
  · simp only [Memory.get_set, if_true]

/-- How two machines may differ: in the cells at hidden addresses and in the step limits. -/
structure Difference where
  keyboard : Keyboard
  hidden : Word → Prop
  leftLimit : Option Int
  rightLimit : Option Int

/-- No look meets a hidden cell other than the status register. -/
def Difference.Unseen (difference : Difference) (effects : List Effect) : Prop :=
  ∀ address, .look address ∈ effects → difference.hidden address →
    address = wordOf difference.keyboard.status

theorem Difference.Unseen.before {difference : Difference} {effects later : List Effect}
    (unseen : difference.Unseen (effects ++ later)) : difference.Unseen effects :=
  fun address member => unseen address (List.mem_append_left later member)

theorem Difference.Unseen.after {difference : Difference} {effects later : List Effect}
    (unseen : difference.Unseen (effects ++ later)) : difference.Unseen later :=
  fun address member => unseen address (List.mem_append_right effects member)

structure Twins (difference : Difference) (left right : Machine) : Prop where
  keyboard : left.keyboard = difference.keyboard
  limit : left.stepLimit = difference.leftLimit
  rest : right = { left with memory := right.memory, stepLimit := difference.rightLimit }
  cells : left.memory.AgreeOutside difference.hidden right.memory

namespace Twins

variable {difference : Difference} {left right : Machine}

theorem keyboards (twins : Twins difference left right) : right.keyboard = left.keyboard := by
  rw [twins.rest]

theorem terminals (twins : Twins difference left right) : right.terminal = left.terminal := by
  rw [twins.rest]

theorem registers (twins : Twins difference left right) : right.registers = left.registers := by
  rw [twins.rest]

theorem states (twins : Twins difference left right) : right.state = left.state := by
  rw [twins.rest]

/-- Twins change alike where the change has nothing to do with cells and limits. -/
theorem map (twins : Twins difference left right) (change : Machine → Machine)
    (keyboard : ∀ machine, (change machine).keyboard = machine.keyboard)
    (limit : ∀ machine, (change machine).stepLimit = machine.stepLimit)
    (memory : ∀ machine, (change machine).memory = machine.memory)
    (blind : ∀ machine memory stepLimit, change { machine with memory, stepLimit } =
      { change machine with memory, stepLimit }) :
    Twins difference (change left) (change right) where
  keyboard := (keyboard left).trans twins.keyboard
  limit := (limit left).trans twins.limit
  rest := by
    rw [memory right]
    exact (congrArg change twins.rest).trans (blind left _ _)
  cells := by
    rw [memory left, memory right]
    exact twins.cells

theorem storeCells (twins : Twins difference left right) {leftMemory rightMemory : Memory}
    (cells : leftMemory.AgreeOutside difference.hidden rightMemory) :
    Twins difference { left with memory := leftMemory } { right with memory := rightMemory } where
  keyboard := twins.keyboard
  limit := twins.limit
  rest := by rw [twins.rest]
  cells := cells

theorem withTerminal (twins : Twins difference left right) (terminal : Terminal) :
    Twins difference { left with terminal } { right with terminal } :=
  twins.map (fun machine => { machine with terminal }) (fun _ => rfl) (fun _ => rfl)
    (fun _ => rfl) fun _ _ _ => rfl

theorem atTerminal (twins : Twins difference left right) (action : EStateM Fault Terminal α) :
    Agree (Twins difference) (Exec.atTerminal action left) (Exec.atTerminal action right) := by
  rw [Exec.atTerminal_apply, Exec.atTerminal_apply, twins.terminals]
  cases action left.terminal with
  | ok value terminal => exact ⟨rfl, twins.withTerminal terminal⟩
  | error fault terminal => exact ⟨rfl, twins.withTerminal terminal⟩

theorem read (twins : Twins difference left right) (reachable : difference.keyboard.Reachable)
    {address : Word} (unseen : difference.Unseen [.look address]) :
    Agree (Twins difference) (Exec.read address left) (Exec.read address right) := by
  have reaches : left.keyboard.Reachable := twins.keyboard ▸ reachable
  by_cases status : address = wordOf left.keyboard.status
  · have place := (Keyboard.isStatus_iff reaches address).mpr status
    rw [Exec.read_of_status place, Exec.read_of_status (twins.keyboards ▸ place), twins.terminals]
    cases Terminal.readChar left.terminal with
    | error fault terminal => exact ⟨rfl, twins.withTerminal terminal⟩
    | ok char terminal =>
        have cells : (left.keyboard.display left.memory char).AgreeOutside difference.hidden
            (right.keyboard.display right.memory char) := by
          rw [twins.keyboards]
          exact twins.cells.display _ char
        refine ⟨?_, (twins.withTerminal terminal).storeCells cells⟩
        rw [twins.keyboards, status]
        exact left.keyboard.get_status_display left.memory right.memory char
  · have plain := (Keyboard.isStatus_eq_false_iff reaches address).mpr status
    have shown : ¬difference.hidden address := by
      intro hidden
      rw [twins.keyboard] at status
      exact status (unseen address List.mem_cons_self hidden)
    rw [Exec.read_of_plain plain, Exec.read_of_plain (twins.keyboards ▸ plain)]
    exact ⟨(twins.cells address shown).symm, twins⟩

theorem walk {after : Machine} {address : Word} {reads : Nat} {words : List Word}
    {interrupt : Option Interrupt} (walk : Walk left address reads words interrupt after)
    (reachable : difference.keyboard.Reachable) (twins : Twins difference left right)
    (unseen : difference.Unseen (looksFrom address reads)) :
    ∃ after', Walk right address reads words interrupt after' ∧ Twins difference after after' := by
  induction walk generalizing right with
  | @stop _ address _ ended =>
      rw [looksFrom_one] at unseen
      have agree := twins.read reachable unseen
      rw [ended] at agree
      obtain ⟨after', ended', again⟩ := agree.of_ok
      exact ⟨after', .stop ended', again⟩
  | @interrupted _ address _ _ failed =>
      rw [looksFrom_one] at unseen
      have agree := twins.read reachable unseen
      rw [failed] at agree
      obtain ⟨after', failed', again⟩ := agree.of_error
      exact ⟨after', .interrupted failed', again⟩
  | @next _ address _ _ _ _ _ _ found nonzero _ ih =>
      rw [looksFrom_succ] at unseen
      change difference.Unseen ([.look address] ++ _) at unseen
      have agree := twins.read reachable unseen.before
      rw [found] at agree
      obtain ⟨between', found', again⟩ := agree.of_ok
      obtain ⟨after', rest, last⟩ := ih again unseen.after
      exact ⟨after', .next found' nonzero rest, last⟩

end Twins

/-- An action depends on the cells it looks at and on no step limit. -/
theorem Traced.agree {difference : Difference} {action : Exec α} {left : Machine}
    {effects : List Effect} (traced : Traced action left effects)
    (reachable : difference.keyboard.Reachable) (unseen : difference.Unseen effects)
    {right : Machine} (twins : Twins difference left right) :
    Agree (Twins difference) (action left) (action right) := by
  induction traced generalizing right with
  | pure => exact ⟨rfl, twins⟩
  | bind _ done _ first rest =>
      refine (first unseen.before twins).bind fun value between between' done' again => ?_
      rw [done, EStateM.Result.ok.injEq] at done'
      obtain ⟨rfl, rfl⟩ := done'
      exact rest unseen.after again
  | stopped _ failed first =>
      refine (first unseen twins).bind fun value between between' done _ => ?_
      rw [failed] at done
      cases done
  | inspect project blind machine =>
      refine ⟨?_, twins⟩
      rw [twins.rest]
      exact (blind machine _ machine.terminal _).symm
  | registers change =>
      exact ⟨rfl, twins.map (fun machine => { machine with registers := change machine.registers })
        (fun _ => rfl) (fun _ => rfl) (fun _ => rfl) fun _ _ _ => rfl⟩
  | write address value => exact ⟨rfl, twins.storeCells (twins.cells.set address value)⟩
  | note message =>
      exact ⟨rfl, twins.map (fun machine => { machine with
        terminal := machine.terminal.note message }) (fun _ => rfl) (fun _ => rfl) (fun _ => rfl)
        fun _ _ _ => rfl⟩
  | look => exact twins.read reachable unseen
  | take => exact twins.atTerminal _
  | print => exact twins.atTerminal _
  | @walk machine _ _ _ interrupt _ walk =>
      obtain ⟨after', walk', again⟩ := twins.walk walk reachable unseen
      have reaches : machine.keyboard.Reachable := twins.keyboard ▸ reachable
      rw [walk.readString_eq reaches, walk'.readString_eq (twins.keyboards ▸ reaches)]
      cases interrupt with
      | none => exact ⟨rfl, again⟩
      | some interrupt => exact ⟨rfl, again⟩

theorem StepEffects.agree {difference : Difference} {left right : Machine} {effects : List Effect}
    (stepped : StepEffects left effects) (reachable : difference.keyboard.Reachable)
    (unseen : difference.Unseen effects) (twins : Twins difference left right) :
    Agree (Twins difference) (Exec.step left) (Exec.step right) := by
  have reaches : left.keyboard.Reachable := twins.keyboard ▸ reachable
  refine Agree.step twins twins.states
    (fun working => (Traced.work reaches working stepped).agree reachable unseen twins) ?_
  intro outcome done done' again
  exact again.map (fun machine => { machine with tick := machine.tick + 1, state := outcome })
    (fun _ => rfl) (fun _ => rfl) (fun _ => rfl) fun _ _ _ => rfl

/-! Steps that are called for one after the other. -/

/-- So many calls of a step, interrupted or not: what they come to and the machine after them. -/
def Exec.stepTimes (count : Nat) (machine : Machine) : List (Except Interrupt Answer) × Machine :=
  performAll (List.replicate count .step) machine

theorem Exec.stepTimes_of_ok {machine next : Machine} {outcome : Outcome}
    (step : step machine = .ok outcome next) (count : Nat) :
    stepTimes (count + 1) machine =
      (.ok (.outcome (some outcome)) :: (stepTimes count next).1, (stepTimes count next).2) := by
  have performed : perform .step machine = .ok (.outcome (some outcome)) next := by
    simp only [perform, bind_apply, step, pure_apply]
  simp only [stepTimes, List.replicate_succ, performAll, performed]

theorem Exec.stepTimes_of_error {machine next : Machine} {interrupt : Interrupt}
    (step : step machine = .error interrupt next) (count : Nat) :
    stepTimes (count + 1) machine =
      (.error interrupt :: (stepTimes count next).1, (stepTimes count next).2) := by
  have performed : perform .step machine = .error interrupt next := by
    simp only [perform, bind_apply, step]
  simp only [stepTimes, List.replicate_succ, performAll, performed]

theorem Twins.stepTimes {difference : Difference} (reachable : difference.keyboard.Reachable)
    {left right : Machine} (twins : Twins difference left right) (count : Nat)
    (unseen : ∀ earlier effects, earlier < count →
      StepEffects (Exec.stepTimes earlier left).2 effects → difference.Unseen effects) :
    (Exec.stepTimes count left).1 = (Exec.stepTimes count right).1 ∧
      Twins difference (Exec.stepTimes count left).2 (Exec.stepTimes count right).2 := by
  induction count generalizing left right with
  | zero => exact ⟨rfl, twins⟩
  | succ count ih =>
      obtain ⟨effects, stepped⟩ := StepEffects.exists_effects (twins.keyboard ▸ reachable)
      have agree := stepped.agree reachable (unseen 0 effects (Nat.succ_pos count) stepped) twins
      cases step : Exec.step left with
      | ok outcome next =>
          rw [step] at agree
          obtain ⟨next', step', again⟩ := agree.of_ok
          have later := ih again fun earlier effects less stepped =>
            unseen (earlier + 1) effects (by omega) (by rwa [Exec.stepTimes_of_ok step])
          rw [Exec.stepTimes_of_ok step, Exec.stepTimes_of_ok step', later.1]
          exact ⟨rfl, later.2⟩
      | error interrupt next =>
          rw [step] at agree
          obtain ⟨next', step', again⟩ := agree.of_error
          have later := ih again fun earlier effects less stepped =>
            unseen (earlier + 1) effects (by omega) (by rwa [Exec.stepTimes_of_error step])
          rw [Exec.stepTimes_of_error step, Exec.stepTimes_of_error step', later.1]
          exact ⟨rfl, later.2⟩

/-! Differences that no program can find out. -/

theorem Machine.rested_eq (machine : Machine) :
    machine.rested = { machine with terminal := machine.rested.terminal } := by
  unfold rested
  split
  · rw [limitNoted_eq]
  · rfl

theorem Machine.rested_withMemory (machine : Machine) (memory : Memory) :
    ({ machine with memory } : Machine).rested = { machine.rested with memory } := by
  have noted : ({ machine with memory } : Machine).limitNoted =
      { machine.limitNoted with memory } := by
    obtain ⟨_, _, _, _, _, _, _, stepLimit, _, _⟩ := machine
    cases stepLimit <;> rfl
  unfold rested
  by_cases exhausted : machine.registers.pc ≠ Exec.topAddress ∧ Exec.isExhausted machine = true
  · rw [if_pos exhausted]
    exact (if_pos exhausted).trans noted
  · rw [if_neg exhausted]
    exact if_neg exhausted

namespace Difference

/-- Nothing is hidden but the status register, and the limits are the same. -/
structure Invisible (difference : Difference) : Prop where
  reachable : difference.keyboard.Reachable
  hidden : ∀ address, difference.hidden address → address = wordOf difference.keyboard.status
  limits : difference.rightLimit = difference.leftLimit

end Difference

namespace Twins

variable {difference : Difference} {left right : Machine}

theorem rest_of_limits (twins : Twins difference left right)
    (limits : difference.rightLimit = difference.leftLimit) :
    right = { left with memory := right.memory } := by
  have rest := twins.rest
  rwa [limits, ← twins.limit] at rest

theorem rested (twins : Twins difference left right)
    (limits : difference.rightLimit = difference.leftLimit) :
    Twins difference left.rested right.rested := by
  have terminals : right.rested.terminal = left.rested.terminal := by
    rw [twins.rest_of_limits limits, Machine.rested_withMemory]
  rw [left.rested_eq, right.rested_eq, terminals]
  exact twins.withTerminal _

theorem bisimulation (invisible : difference.Invisible) : Bisimulation (Twins difference) where
  step twins := by
    obtain ⟨effects, stepped⟩ :=
      StepEffects.exists_effects (twins.keyboard ▸ invisible.reachable)
    exact stepped.agree invisible.reachable (fun address _ => invisible.hidden address) twins
  stops twins := by
    rw [twins.rest_of_limits invisible.limits]
    exact Iff.rfl
  rested twins := ⟨twins.states.symm, twins.rested invisible.limits⟩

theorem tryRegisters (twins : Twins difference left right)
    (change : Registers → Except RegisterError Registers) :
    Agree (Twins difference) (Exec.tryRegisters change left) (Exec.tryRegisters change right) := by
  rw [Exec.tryRegisters, Exec.tryRegisters, twins.registers]
  cases change left.registers with
  | error error => exact ⟨rfl, twins⟩
  | ok registers =>
      exact ⟨rfl, twins.map (fun machine => { machine with registers }) (fun _ => rfl)
        (fun _ => rfl) (fun _ => rfl) fun _ _ _ => rfl⟩

theorem perform (invisible : difference.Invisible) (twins : Twins difference left right)
    (request : Request) :
    Agree (Twins difference) (Exec.perform request left) (Exec.perform request right) := by
  have reachable : left.keyboard.Reachable := twins.keyboard ▸ invisible.reachable
  have same {α : Type} {action : Exec α} {effects : List Effect}
      (traced : Traced action left effects) :
      Agree (Twins difference) (action left) (action right) :=
    traced.agree invisible.reachable (fun address _ => invisible.hidden address) twins
  cases request with
  | step => exact ((bisimulation invisible).step twins).answer _
  | run => exact ((bisimulation invisible).run twins).answer _
  | trap vector =>
      obtain ⟨effects, traced⟩ := Traced.exists_trap reachable vector
      exact (same traced).answer _
  | read address => exact (same (.look _ left)).answer _
  | write address value => exact (same (.write _ _ left)).answer _
  | setRegister number value => exact twins.tryRegisters (·.setAt number value)
  | flag number => exact twins.tryRegisters (·.flagAt number)
  | setPc value => exact (same (.registers _ left)).answer _
  | renew =>
      exact ⟨rfl, twins.map Machine.renew (fun _ => rfl) (fun _ => rfl) (fun _ => rfl)
        fun _ _ _ => rfl⟩

end Twins

/-- Two machines after the same calls: what came of these is the same, and so is all but the hidden
cells. -/
def SameOutside (hidden : Word → Prop)
    (left right : List (Except Interrupt Answer) × Machine) : Prop :=
  left.1 = right.1 ∧ right.2 = { left.2 with memory := right.2.memory } ∧
    left.2.memory.AgreeOutside hidden right.2.memory

theorem Twins.sameOutside {difference : Difference}
    {left right : List (Except Interrupt Answer) × Machine}
    (limits : difference.rightLimit = difference.leftLimit)
    (same : left.1 = right.1 ∧ Twins difference left.2 right.2) :
    SameOutside difference.hidden left right :=
  ⟨same.1, same.2.rest_of_limits limits, same.2.cells⟩

def SameButCells (left right : Machine) : Prop := right = { left with memory := right.memory }

/-- The memory has the cells which so many reads from the address in R0 meet. The status register
need not be among them. -/
def Machine.StringKept (machine : Machine) (memory : Memory) (reads : Nat) : Prop :=
  ∀ index < reads,
    let address := machine.registers.get 0 + BitVec.ofNat 16 index
    memory.get address = machine.memory.get address ∨ address = wordOf machine.keyboard.status

theorem printed_string_agrees {machine : Machine} {memory : Memory} {reads : Nat}
    {words : List Word} {interrupt : Option Interrupt} {after : Machine}
    (reachable : machine.keyboard.Reachable)
    (walk : Walk machine (machine.registers.get 0) reads words interrupt after)
    (same : machine.StringKept memory reads)
    (textOf : List Word → Text) :
    Agree SameButCells
      ((do
        Exec.print (textOf (← Exec.readString (← Exec.register 0)))
        return Outcome.continuing) machine)
      ((do
        Exec.print (textOf (← Exec.readString (← Exec.register 0)))
        return Outcome.continuing) { machine with memory }) := by
  let difference : Difference :=
    { keyboard := machine.keyboard
      hidden := fun address => memory.get address ≠ machine.memory.get address
      leftLimit := machine.stepLimit
      rightLimit := machine.stepLimit }
  have twins : Twins difference machine { machine with memory } :=
    ⟨rfl, rfl, rfl, fun address shown => Classical.not_not.mp shown⟩
  have row : PrintsString textOf machine (looksFrom (machine.registers.get 0) reads ++
      if interrupt = none then [.print (textOf words)] else []) :=
    ⟨reads, words, interrupt, after, walk, rfl⟩
  have unseen : difference.Unseen (looksFrom (machine.registers.get 0) reads ++
      if interrupt = none then [.print (textOf words)] else []) := by
    intro address member hidden
    have looked : .look address ∈ looksFrom (machine.registers.get 0) reads := by
      refine (List.mem_append.mp member).resolve_right fun printed => ?_
      split at printed <;> simp at printed
    obtain ⟨index, less, rfl⟩ := exists_of_look_mem looked
    exact (same index less).resolve_left hidden
  have agree := (Traced.string reachable row).agree reachable unseen twins
  exact agree.mono fun _ _ again => again.rest_of_limits rfl

/-- What a machine does depends on the cells it reads alone. -/
theorem steps_depend_on_cells_read :
    (∀ (left right : Machine) (hidden : Word → Prop) (count : Nat),
      left.keyboard.Reachable → right = { left with memory := right.memory } →
      left.memory.AgreeOutside hidden right.memory →
      (∀ earlier effects, earlier < count →
        StepEffects (Exec.stepTimes earlier left).2 effects →
        ∀ address, .look address ∈ effects → hidden address →
          address = wordOf left.keyboard.status) →
      SameOutside hidden (Exec.stepTimes count left) (Exec.stepTimes count right)) ∧
    (∀ (machine : Machine) (value : Word) (requests : List Request),
      machine.keyboard.Reachable →
      SameOutside (· = wordOf machine.keyboard.status) (Exec.performAll requests machine)
        (Exec.performAll requests (machine.store (wordOf machine.keyboard.status) value))) ∧
    (∀ (machine : Machine) (memory : Memory) reads words interrupt after,
      machine.keyboard.Reachable →
      Walk machine (machine.registers.get 0) reads words interrupt after →
      machine.StringKept memory reads →
      Agree SameButCells (Exec.serve .puts machine) (Exec.serve .puts { machine with memory }) ∧
      Agree SameButCells (Exec.serve .putsp machine)
        (Exec.serve .putsp { machine with memory })) := by
  refine ⟨?_, ?_, ?_⟩
  · intro left right hidden count reachable rest cells unseen
    have twins : Twins ⟨left.keyboard, hidden, left.stepLimit, left.stepLimit⟩ left right :=
      ⟨rfl, rfl, rest, cells⟩
    exact Twins.sameOutside rfl (twins.stepTimes reachable count unseen)
  · intro machine value requests reachable
    let difference : Difference :=
      { keyboard := machine.keyboard
        hidden := (· = wordOf machine.keyboard.status)
        leftLimit := machine.stepLimit
        rightLimit := machine.stepLimit }
    have invisible : difference.Invisible := ⟨reachable, fun _ hidden => hidden, rfl⟩
    have twins : Twins difference machine (machine.store (wordOf machine.keyboard.status) value) :=
      ⟨rfl, rfl, rfl, fun address shown => Memory.get_set_of_ne _ _ (Ne.symm shown)⟩
    have same := Agree.performAll (fun request _ _ twins => twins.perform invisible request) twins
      requests
    exact Twins.sameOutside rfl same
  · intro machine memory reads words interrupt after reachable walk same
    exact ⟨printed_string_agrees reachable walk same textOfWords,
      printed_string_agrees reachable walk same textOfPackedWords⟩

/-- A machine that prints the empty string, since R0 holds the address of a zero word, and then
what is not hidden from it: the address 9 is. -/
def Machine.printing : Machine :=
  .load ⟨4, [0xF022, 0xF025]⟩ .standard none defaultHaltMessage (.ofSourceSink (.script []) .full)

theorem printing_effects {effects : List Effect} (stepped : StepEffects Machine.printing effects) :
    effects = [.look 4, .look 0, .print []] := by
  have fetch : Exec.read Machine.printing.registers.pc Machine.printing =
      .ok 0xF022 Machine.printing := rfl
  cases stepped with
  | ended ended => exact absurd rfl ended
  | interrupted _ failed =>
      rw [fetch] at failed
      cases failed
  | fetched _ found row =>
      rw [fetch, EStateM.Result.ok.injEq] at found
      obtain ⟨rfl, rfl⟩ := found
      obtain ⟨reads, words, interrupt, after, walk, rfl⟩ : PrintsString textOfWords
        (Machine.printing.goTo (Machine.printing.ahead 1)) _ := row
      obtain ⟨rfl, rfl, rfl, _⟩ := walk.deterministic (.stop rfl)
      rfl

theorem printing_depends_on_cells_read :
    let machine := Machine.printing
    let other := machine.store 9 0x41
    machine.keyboard.Reachable ∧ other = { machine with memory := other.memory } ∧
      machine.memory.AgreeOutside (· = 9) other.memory ∧
      SameOutside (· = 9) (Exec.stepTimes 1 machine) (Exec.stepTimes 1 other) ∧
      SameOutside (· = wordOf machine.keyboard.status) (Exec.performAll [.run] machine)
        (Exec.performAll [.run] (machine.store (wordOf machine.keyboard.status) 7)) ∧
      Walk machine (machine.registers.get 0) 1 [] none machine ∧
      machine.StringKept other.memory 1 ∧
      Agree SameButCells (Exec.serve .puts machine)
        (Exec.serve .puts { machine with memory := other.memory }) := by
  intro machine other
  have reachable : machine.keyboard.Reachable := Keyboard.standard_proper.reachable
  have walk : Walk machine (machine.registers.get 0) 1 [] none machine := .stop rfl
  have outside : machine.memory.AgreeOutside (· = 9) other.memory := fun address shown =>
    Memory.get_set_of_ne _ _ (Ne.symm shown)
  have kept : machine.StringKept other.memory 1 := by
    intro index less
    obtain rfl : index = 0 := by omega
    exact .inl (outside _ (by decide))
  have unseen : ∀ earlier effects, earlier < 1 →
      StepEffects (Exec.stepTimes earlier machine).2 effects →
      ∀ address, .look address ∈ effects → address = 9 →
        address = wordOf machine.keyboard.status := by
    rintro earlier effects less stepped address looked rfl
    obtain rfl : earlier = 0 := by omega
    rw [printing_effects stepped] at looked
    simp at looked
  exact ⟨reachable, rfl, outside,
    steps_depend_on_cells_read.1 machine other (· = 9) 1 reachable rfl outside unseen,
    steps_depend_on_cells_read.2.1 machine 7 [.run] reachable, walk, kept,
    (steps_depend_on_cells_read.2.2 machine other.memory 1 [] none machine reachable walk kept).1⟩

end Lc3
