import Lc3.Proofs.Request

/-!
Two machines that differ in their terminals only. While every call of one terminal yields what the
same call of the other yields, the two do the same for ever: instructions, runs of any length and
whole sequences of requests.
-/

namespace Lc3

/-- Both end well with one value, or both are interrupted in one way, and leave related states. -/
def Agree (related : σ → σ → Prop) : EStateM.Result ε σ α → EStateM.Result ε σ α → Prop
  | .ok left first, .ok right second => left = right ∧ related first second
  | .error left first, .error right second => left = right ∧ related first second
  | _, _ => False

theorem Agree.of_ok {related : σ → σ → Prop} {value : α} {first : σ}
    {right : EStateM.Result ε σ α} (agree : Agree related (.ok value first) right) :
    ∃ second, right = .ok value second ∧ related first second := by
  cases right with
  | ok value' second =>
      obtain ⟨rfl, alike⟩ := agree
      exact ⟨second, rfl, alike⟩
  | error error second => exact agree.elim

theorem Agree.of_error {related : σ → σ → Prop} {error : ε} {first : σ}
    {right : EStateM.Result ε σ α} (agree : Agree related (.error error first) right) :
    ∃ second, right = .error error second ∧ related first second := by
  cases right with
  | ok value second => exact agree.elim
  | error error' second =>
      obtain ⟨rfl, alike⟩ := agree
      exact ⟨second, rfl, alike⟩

theorem Agree.flip {related : σ → σ → Prop} {left right : EStateM.Result ε σ α}
    (agree : Agree related left right) : Agree (flip related) right left := by
  cases left <;> cases right <;> first | exact agree.elim | exact ⟨agree.1.symm, agree.2⟩

theorem Agree.mono {related other : σ → σ → Prop} {left right : EStateM.Result ε σ α}
    (agree : Agree related left right)
    (weaker : ∀ first second, related first second → other first second) :
    Agree other left right := by
  cases left <;> cases right <;> first | exact agree.elim | exact ⟨agree.1, weaker _ _ agree.2⟩

theorem Agree.bind {related : Machine → Machine → Prop} {action : Exec α} {next : α → Exec β}
    {left right : Machine} (first : Agree related (action left) (action right))
    (rest : ∀ value between between', action left = .ok value between → related between between' →
      Agree related (next value between) (next value between')) :
    Agree related ((action >>= next) left) ((action >>= next) right) := by
  rw [Exec.bind_apply, Exec.bind_apply]
  cases done : action left with
  | ok value between =>
      rw [done] at first
      obtain ⟨between', done', alike⟩ := first.of_ok
      rw [done']
      exact rest value between between' done alike
  | error interrupt after =>
      rw [done] at first
      obtain ⟨after', done', alike⟩ := first.of_error
      rw [done']
      exact ⟨rfl, alike⟩

theorem Agree.answer {related : Machine → Machine → Prop} {action : Exec α}
    {left right : Machine} (agree : Agree related (action left) (action right)) (result : α → β) :
    Agree related ((do return result (← action)) left) ((do return result (← action)) right) :=
  agree.bind fun _ _ _ _ alike => ⟨rfl, alike⟩

/-- Machines that work alike step alike, if they stay related when the tick and the state are
written down. -/
theorem Agree.step {related : Machine → Machine → Prop} {left right : Machine}
    (alike : related left right) (states : right.state = left.state)
    (worked : left.state = .continuing → Agree related (Exec.work left) (Exec.work right))
    (onward : ∀ outcome done done', related done done' →
      related { done with tick := done.tick + 1, state := outcome }
        { done' with tick := done'.tick + 1, state := outcome }) :
    Agree related (Exec.step left) (Exec.step right) := by
  by_cases working : left.state = .continuing
  · have agree := worked working
    rw [Exec.step_of_continuing working, Exec.step_of_continuing (states.trans working)]
    cases ended : Exec.work left with
    | ok outcome done =>
        rw [ended] at agree
        obtain ⟨done', ended', again⟩ := agree.of_ok
        rw [ended']
        exact ⟨rfl, onward outcome done done' again⟩
    | error interrupt after =>
        rw [ended] at agree
        obtain ⟨after', ended', again⟩ := agree.of_error
        rw [ended']
        exact ⟨rfl, again⟩
  · rw [Exec.step_of_ended working, Exec.step_of_ended (states ▸ working)]
    exact ⟨states.symm, alike⟩

/-- A relation of machines that steps keep and that tells when to stop alike. -/
structure Bisimulation (related : Machine → Machine → Prop) : Prop where
  step : ∀ {left right}, related left right → Agree related (Exec.step left) (Exec.step right)
  stops : ∀ {left right}, related left right → (left.Stops ↔ right.Stops)
  rested : ∀ {left right}, related left right →
    left.state = right.state ∧ related left.rested right.rested

namespace Bisimulation

variable {related : Machine → Machine → Prop} (bisimulation : Bisimulation related)

include bisimulation

theorem flip : Bisimulation (flip related) where
  step alike := (bisimulation.step alike).flip
  stops alike := (bisimulation.stops alike).symm
  rested alike := ⟨(bisimulation.rested alike).1.symm, (bisimulation.rested alike).2⟩

theorem runEnds {left right : Machine} {count : Nat}
    {result : EStateM.Result Interrupt Machine Outcome} (ends : RunEnds left count result)
    (alike : related left right) :
    ∃ result', RunEnds right count result' ∧ Agree related result result' := by
  induction ends generalizing right with
  | rests stopped =>
      exact ⟨_, .rests ((bisimulation.stops alike).mp stopped), bisimulation.rested alike⟩
  | ended goes stepped ended =>
      have agree := bisimulation.step alike
      rw [stepped] at agree
      obtain ⟨next', stepped', again⟩ := agree.of_ok
      have goes' := mt (bisimulation.stops alike).mpr goes
      exact ⟨_, .ended goes' stepped' ended, rfl, again⟩
  | failed goes failed =>
      have agree := bisimulation.step alike
      rw [failed] at agree
      obtain ⟨after', failed', again⟩ := agree.of_error
      have goes' := mt (bisimulation.stops alike).mpr goes
      exact ⟨_, .failed goes' failed', rfl, again⟩
  | onward goes stepped _ ih =>
      have agree := bisimulation.step alike
      rw [stepped] at agree
      obtain ⟨next', stepped', again⟩ := agree.of_ok
      have goes' := mt (bisimulation.stops alike).mpr goes
      obtain ⟨result', ends', last⟩ := ih again
      exact ⟨result', .onward goes' stepped' ends', last⟩

theorem runOn_eq_none {left right : Machine} (alike : related left right)
    (endless : left.runOn = none) : right.runOn = none := by
  cases ran : right.runOn with
  | none => rfl
  | some result =>
      obtain ⟨count, ends⟩ := Exec.runEnds_of_runOn ran
      obtain ⟨result', ends', _⟩ := bisimulation.flip.runEnds ends alike
      rw [Exec.runOn_of_runEnds ends'] at endless
      cases endless

theorem run {left right : Machine} (alike : related left right) :
    Agree related (Exec.run left) (Exec.run right) := by
  rw [Exec.run, Exec.run]
  cases ran : left.runOn with
  | none =>
      rw [bisimulation.runOn_eq_none alike ran]
      exact ⟨rfl, alike⟩
  | some result =>
      obtain ⟨count, ends⟩ := Exec.runEnds_of_runOn ran
      obtain ⟨result', ends', agree⟩ := bisimulation.runEnds ends alike
      rw [Exec.runOn_of_runEnds ends']
      cases result with
      | ok outcome after =>
          obtain ⟨after', rfl, again⟩ := agree.of_ok
          exact ⟨rfl, again⟩
      | error interrupt after =>
          obtain ⟨after', rfl, again⟩ := agree.of_error
          exact ⟨rfl, again⟩

end Bisimulation

/-- Machines that answer each request alike and stay related answer all requests alike. -/
theorem Agree.performAll {related : Machine → Machine → Prop}
    (perform : ∀ request ⦃left right⦄, related left right →
      Agree related (Exec.perform request left) (Exec.perform request right))
    {left right : Machine} (alike : related left right) (requests : List Request) :
    (Exec.performAll requests left).1 = (Exec.performAll requests right).1 ∧
      related (Exec.performAll requests left).2 (Exec.performAll requests right).2 := by
  induction requests generalizing left right with
  | nil => exact ⟨rfl, alike⟩
  | cons request requests ih =>
      have agree := perform request alike
      rw [Exec.performAll, Exec.performAll]
      cases performed : Exec.perform request left with
      | ok answer next =>
          rw [performed] at agree
          obtain ⟨next', performed', again⟩ := agree.of_ok
          obtain ⟨answers, last⟩ := ih again
          rw [performed']
          exact ⟨congrArg (.ok answer :: ·) answers, last⟩
      | error interrupt next =>
          rw [performed] at agree
          obtain ⟨next', performed', again⟩ := agree.of_error
          obtain ⟨answers, last⟩ := ih again
          rw [performed']
          exact ⟨congrArg (.error interrupt :: ·) answers, last⟩

/-- A failure of the device, which a terminal absorbs. -/
def Message.isFailure : Message → Bool
  | .readFailed _ | .writeFailed _ => true
  | _ => false

/-- A relation of terminals that no service and no message of the machine can tell apart. -/
structure Simulation (related : Terminal → Terminal → Prop) : Prop where
  readChar : ∀ {left right}, related left right →
    Agree related (Terminal.readChar left) (Terminal.readChar right)
  print : ∀ text {left right}, related left right →
    Agree related (Terminal.print text left) (Terminal.print text right)
  note : ∀ {message left right}, message.isFailure = false → related left right →
    related (left.note message) (right.note message)

theorem Simulation.flip {related : Terminal → Terminal → Prop} (simulation : Simulation related) :
    Simulation (flip related) where
  readChar alike := (simulation.readChar alike).flip
  print text _ _ alike := (simulation.print text alike).flip
  note := simulation.note

/-- Machines that differ in their terminals only, and in these as far as the relation allows. -/
structure Alike (related : Terminal → Terminal → Prop) (left right : Machine) : Prop where
  reachable : left.keyboard.Reachable
  terminals : related left.terminal right.terminal
  rest : right = { left with terminal := right.terminal }

namespace Alike

variable {related : Terminal → Terminal → Prop} {left right : Machine}

theorem flip (alike : Alike related left right) : Alike (flip related) right left where
  reachable := by
    rw [alike.rest]
    exact alike.reachable
  terminals := alike.terminals
  rest := by
    rw [alike.rest]

theorem map (alike : Alike related left right) (change : Machine → Machine)
    (keyboard : ∀ machine, (change machine).keyboard = machine.keyboard)
    (blind : ∀ machine terminal, change { machine with terminal } =
      { change machine with terminal }) :
    Alike related (change left) (change right) where
  reachable := by
    rw [keyboard]
    exact alike.reachable
  terminals := by
    have own (machine : Machine) : (change machine).terminal = machine.terminal := by
      have same := congrArg Machine.terminal (blind machine machine.terminal)
      exact same
    rw [own, own]
    exact alike.terminals
  rest := by
    rw [alike.rest, blind]

theorem note (alike : Alike related left right) (simulation : Simulation related)
    {message : Message} (plain : message.isFailure = false) :
    Alike related { left with terminal := left.terminal.note message }
      { right with terminal := right.terminal.note message } where
  reachable := alike.reachable
  terminals := simulation.note plain alike.terminals
  rest := by
    rw [alike.rest]

end Alike

def Lockstep (related : Terminal → Terminal → Prop) (action : Exec α) : Prop :=
  ∀ ⦃left right⦄, Alike related left right → Agree (Alike related) (action left) (action right)

namespace Lockstep

variable {related : Terminal → Terminal → Prop}

theorem pure (value : α) : Lockstep related (pure value) := fun _ _ alike => ⟨rfl, alike⟩

theorem bind {action : Exec α} {next : α → Exec β} (first : Lockstep related action)
    (rest : ∀ value, Lockstep related (next value)) : Lockstep related (action >>= next) :=
  fun _ _ alike => (first alike).bind fun value _ _ _ again => rest value again

theorem inspect (project : Machine → α)
    (blind : ∀ machine terminal, project { machine with terminal } = project machine) :
    Lockstep related (Exec.view project) := by
  intro left right alike
  refine ⟨?_, alike⟩
  rw [alike.rest]
  exact (blind left right.terminal).symm

theorem atTerminal {action : EStateM Fault Terminal α}
    (same : ∀ {left right}, related left right → Agree related (action left) (action right)) :
    Lockstep related (Exec.atTerminal action) := by
  intro left right alike
  have agree := same alike.terminals
  rw [Exec.atTerminal_apply, Exec.atTerminal_apply]
  cases done : action left.terminal with
  | ok value terminal =>
      rw [done] at agree
      obtain ⟨terminal', done', terminals⟩ := agree.of_ok
      rw [done']
      refine ⟨rfl, alike.reachable, terminals, ?_⟩
      rw [alike.rest]
  | error fault terminal =>
      rw [done] at agree
      obtain ⟨terminal', done', terminals⟩ := agree.of_error
      rw [done']
      refine ⟨rfl, alike.reachable, terminals, ?_⟩
      rw [alike.rest]

variable (simulation : Simulation related)

include simulation

theorem read (address : Word) : Lockstep related (Exec.read address) := by
  intro left right alike
  have keyboard : right.keyboard = left.keyboard := by rw [alike.rest]
  have memory : right.memory = left.memory := by rw [alike.rest]
  cases status : left.keyboard.isStatus address with
  | false =>
      rw [Exec.read_of_plain status, Exec.read_of_plain (keyboard ▸ status)]
      exact ⟨by rw [memory], alike⟩
  | true =>
      rw [Exec.read_of_status status, Exec.read_of_status (keyboard ▸ status)]
      have agree := simulation.readChar alike.terminals
      cases found : Terminal.readChar left.terminal with
      | ok char terminal =>
          rw [found] at agree
          obtain ⟨terminal', found', terminals⟩ := agree.of_ok
          rw [found']
          refine ⟨by rw [keyboard, memory], alike.reachable, terminals, ?_⟩
          rw [alike.rest]
      | error fault terminal =>
          rw [found] at agree
          obtain ⟨terminal', found', terminals⟩ := agree.of_error
          rw [found']
          refine ⟨rfl, alike.reachable, terminals, ?_⟩
          rw [alike.rest]

theorem walk {left right after : Machine} {address : Word} {reads : Nat} {words : List Word}
    {interrupt : Option Interrupt} (walk : Walk left address reads words interrupt after)
    (alike : Alike related left right) :
    ∃ after', Walk right address reads words interrupt after' ∧ Alike related after after' := by
  induction walk generalizing right with
  | @stop _ address _ ended =>
      have agree := read simulation address alike
      rw [ended] at agree
      obtain ⟨after', ended', again⟩ := agree.of_ok
      exact ⟨after', .stop ended', again⟩
  | @interrupted _ address _ _ failed =>
      have agree := read simulation address alike
      rw [failed] at agree
      obtain ⟨after', failed', again⟩ := agree.of_error
      exact ⟨after', .interrupted failed', again⟩
  | @next _ address _ _ _ _ _ _ found nonzero _ ih =>
      have agree := read simulation address alike
      rw [found] at agree
      obtain ⟨between', found', again⟩ := agree.of_ok
      obtain ⟨after', rest, last⟩ := ih again
      exact ⟨after', .next found' nonzero rest, last⟩

theorem readString (address : Word) : Lockstep related (Exec.readString address) := by
  intro left right alike
  obtain ⟨reads, words, interrupt, after, walked⟩ :=
    Walk.exists_of_reachable alike.reachable address
  obtain ⟨after', walked', again⟩ := walk simulation walked alike
  rw [walked.readString_eq alike.reachable, walked'.readString_eq alike.flip.reachable]
  cases interrupt with
  | none => exact ⟨rfl, again⟩
  | some interrupt => exact ⟨rfl, again⟩

theorem built {action : Exec α} (built : Exec.Built action) : Lockstep related action := by
  induction built with
  | pure value => exact pure value
  | bind _ _ first rest => exact bind first rest
  | inspect project blind => exact inspect project blind
  | registers change =>
      intro left right alike
      exact ⟨rfl, alike.map (fun machine => { machine with registers := change machine.registers })
        (fun _ => rfl) fun _ _ => rfl⟩
  | write address value =>
      intro left right alike
      exact ⟨rfl, alike.map (fun machine => { machine with
        memory := machine.memory.set address value }) (fun _ => rfl) fun _ _ => rfl⟩
  | halted steps => exact fun _ _ alike => ⟨rfl, alike.note simulation rfl⟩
  | unknownTrap vector pc => exact fun _ _ alike => ⟨rfl, alike.note simulation rfl⟩
  | readChar => exact atTerminal simulation.readChar
  | print text => exact atTerminal (simulation.print text)
  | string address => exact readString simulation address

theorem step : Lockstep related Exec.step := by
  intro left right alike
  have states : right.state = left.state := by rw [alike.rest]
  refine Agree.step alike states (fun _ => built simulation Exec.Built.work alike) ?_
  intro outcome done done' again
  exact again.map (fun machine => { machine with tick := machine.tick + 1, state := outcome })
    (fun _ => rfl) fun _ _ => rfl

omit simulation in
theorem stops {left right : Machine} (alike : Alike related left right) (stops : left.Stops) :
    right.Stops := by
  rw [alike.rest]
  exact stops

theorem rested {left right : Machine} (alike : Alike related left right) :
    Alike related left.rested right.rested := by
  have same : right.registers.pc ≠ Exec.topAddress ∧ Exec.isExhausted right = true ↔
      left.registers.pc ≠ Exec.topAddress ∧ Exec.isExhausted left = true := by
    rw [alike.rest]
    rfl
  have limit : right.stepLimit = left.stepLimit := by rw [alike.rest]
  have pc : right.registers.pc = left.registers.pc := by rw [alike.rest]
  unfold Machine.rested
  by_cases noted : left.registers.pc ≠ Exec.topAddress ∧ Exec.isExhausted left = true
  · rw [if_pos noted, if_pos (same.mpr noted)]
    cases limited : left.stepLimit with
    | none => simpa [Machine.limitNoted, limit, limited] using alike
    | some value =>
        rw [Machine.limitNoted_of_some limited,
          Machine.limitNoted_of_some (limit.trans limited), pc]
        exact alike.note simulation rfl
  · rw [if_neg noted, if_neg fun both => noted (same.mp both)]
    exact alike

theorem bisimulation : Bisimulation (Alike related) where
  step alike := step simulation alike
  stops alike := ⟨stops alike, stops alike.flip⟩
  rested alike := ⟨by rw [alike.rest], rested simulation alike⟩

theorem run : Lockstep related Exec.run := fun _ _ alike => (bisimulation simulation).run alike

omit simulation in
theorem tryRegisters (change : Registers → Except RegisterError Registers) :
    Lockstep related (Exec.tryRegisters change) := by
  intro left right alike
  have registers : right.registers = left.registers := by rw [alike.rest]
  rw [Exec.tryRegisters, Exec.tryRegisters, registers]
  cases change left.registers with
  | error error => exact ⟨rfl, alike⟩
  | ok registers =>
      exact ⟨rfl, alike.map (fun machine => { machine with registers }) (fun _ => rfl)
        fun _ _ => rfl⟩

theorem perform (request : Request) : Lockstep related (Exec.perform request) := by
  cases request with
  | step => exact bind (step simulation) fun _ => pure _
  | run => exact bind (run simulation) fun _ => pure _
  | trap vector => exact bind (built simulation (.trap vector)) fun _ => pure _
  | read address => exact bind (read simulation _) fun _ => pure _
  | write address value => exact bind (built simulation (.write _ _)) fun _ => pure _
  | setRegister number value => exact tryRegisters (·.setAt number value)
  | flag number => exact tryRegisters (·.flagAt number)
  | setPc value => exact bind (built simulation (.registers _)) fun _ => pure _
  | renew =>
      refine bind (fun left right alike => ⟨rfl, ?_⟩) fun _ => pure _
      exact alike.map Machine.renew (fun _ => rfl) fun _ _ => rfl

/-- Machines that are alike give the same answers to all requests, and stay alike. -/
theorem performAll {left right : Machine} (alike : Alike related left right)
    (requests : List Request) :
    (Exec.performAll requests left).1 = (Exec.performAll requests right).1 ∧
      Alike related (Exec.performAll requests left).2 (Exec.performAll requests right).2 :=
  Agree.performAll (fun request => perform simulation request) alike requests

end Lockstep

end Lc3
