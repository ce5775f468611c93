import Lc3.Proofs.Calls

/-!
Runs as sequences of steps. A run goes on while there is no reason to stop, and the first machine
at which there is one decides what it comes to.
-/

namespace Lc3

/-- Reaching a machine by so many steps, all of which end well. -/
inductive Steps : Machine → Nat → Machine → Prop
  | none {machine} : Steps machine 0 machine
  | more {machine outcome next count last} :
      Exec.step machine = .ok outcome next → Steps next count last →
      Steps machine (count + 1) last

namespace Steps

variable {machine last : Machine} {count : Nat}

theorem deterministic {other : Machine} (steps : Steps machine count last)
    (others : Steps machine count other) : last = other := by
  induction steps with
  | none =>
      cases others
      rfl
  | more step _ ih =>
      cases others with
      | more step' rest =>
          rw [step, EStateM.Result.ok.injEq] at step'
          obtain ⟨rfl, rfl⟩ := step'
          exact ih rest

theorem exists_last (steps : Steps machine (count + 1) last) :
    ∃ before outcome, Steps machine count before ∧ Exec.step before = .ok outcome last := by
  induction count generalizing machine with
  | zero =>
      cases steps with
      | more step rest =>
          cases rest
          exact ⟨machine, _, .none, step⟩
  | succ count ih =>
      cases steps with
      | more step rest =>
          obtain ⟨before, outcome, earlier, latest⟩ := ih rest
          exact ⟨before, outcome, .more step earlier, latest⟩

end Steps

namespace Machine

/-- As many instructions were executed as the step limit allows. -/
def AtLimit (machine : Machine) : Prop :=
  ∃ limit, machine.stepLimit = some limit ∧ limit ≤ machine.tick

def Stops (machine : Machine) : Prop :=
  machine.state ≠ .continuing ∨ machine.registers.pc = Exec.topAddress ∨ machine.AtLimit

def limitNoted (machine : Machine) : Machine :=
  match machine.stepLimit with
  | some limit =>
    { machine with terminal := machine.terminal.note (.limitReached limit machine.registers.pc) }
  | none => machine

theorem limitNoted_eq (machine : Machine) :
    machine.limitNoted =
      { machine with
        terminal := { machine.terminal with log := machine.limitNoted.terminal.log } } := by
  unfold limitNoted
  split <;> rfl

theorem limitNoted_of_some {machine : Machine} {limit : Int}
    (limited : machine.stepLimit = some limit) :
    machine.limitNoted =
      { machine with
        terminal := machine.terminal.note (.limitReached limit machine.registers.pc) } := by
  rw [limitNoted, limited]

theorem state_limitNoted (machine : Machine) : machine.limitNoted.state = machine.state := by
  rw [limitNoted_eq]

def rested (machine : Machine) : Machine :=
  if machine.registers.pc ≠ Exec.topAddress ∧ Exec.isExhausted machine then machine.limitNoted
  else machine

/-- The machine as a run leaves it at its first reason to stop, which it met after so many steps.
A step that ends the program is not followed by a look at the limit. -/
def leftAfter (count : Nat) (last : Machine) : Machine :=
  if count = 0 ∨ last.state = .continuing then last.rested else last

theorem isExhausted_iff (machine : Machine) :
    Exec.isExhausted machine = true ↔ machine.AtLimit := by
  unfold Exec.isExhausted AtLimit
  cases machine.stepLimit <;> simp

end Machine

theorem Machine.working_of_goes {machine : Machine} (goes : ¬machine.Stops) :
    machine.state = .continuing := Classical.not_not.mp fun ended => goes (.inl ended)

/-- The first machine on the way at which there is a reason to stop. -/
structure FirstStop (machine : Machine) (count : Nat) (last : Machine) : Prop where
  reached : Steps machine count last
  stops : last.Stops
  first : ∀ earlier before, earlier < count → Steps machine earlier before → ¬before.Stops

theorem firstStop_zero_iff {machine last : Machine} :
    FirstStop machine 0 last ↔ last = machine ∧ machine.Stops := by
  constructor
  · rintro ⟨reached, stops, _⟩
    cases reached
    exact ⟨rfl, stops⟩
  · rintro ⟨rfl, stops⟩
    exact ⟨.none, stops, by omega⟩

theorem firstStop_succ_iff {machine last : Machine} {count : Nat} :
    FirstStop machine (count + 1) last ↔
      ∃ outcome next, ¬machine.Stops ∧ Exec.step machine = .ok outcome next ∧
        FirstStop next count last := by
  constructor
  · rintro ⟨reached, stops, first⟩
    cases reached with
    | @more _ outcome next _ _ step rest =>
        refine ⟨outcome, next, first 0 machine (Nat.succ_pos count) .none, step, rest, stops, ?_⟩
        intro earlier before less steps
        exact first (earlier + 1) before (by omega) (.more step steps)
  · rintro ⟨outcome, next, goes, step, rest⟩
    refine ⟨.more step rest.reached, rest.stops, ?_⟩
    intro earlier before less steps
    cases steps with
    | none => exact goes
    | more step' steps =>
        rw [step, EStateM.Result.ok.injEq] at step'
        obtain ⟨rfl, rfl⟩ := step'
        exact rest.first _ before (by omega) steps

/-- How a run ends: the number of instructions begun and its result. -/
inductive RunEnds : Machine → Nat → EStateM.Result Interrupt Machine Outcome → Prop
  | rests {machine} : machine.Stops → RunEnds machine 0 (.ok machine.state machine.rested)
  | ended {machine outcome next} : ¬machine.Stops → Exec.step machine = .ok outcome next →
      outcome ≠ .continuing → RunEnds machine 1 (.ok outcome next)
  | failed {machine interrupt after} : ¬machine.Stops →
      Exec.step machine = .error interrupt after → RunEnds machine 1 (.error interrupt after)
  | onward {machine next count result} : ¬machine.Stops →
      Exec.step machine = .ok .continuing next → RunEnds next count result →
      RunEnds machine (count + 1) result

namespace Exec

theorem noteLimit_apply (machine : Machine) : noteLimit machine = .ok () machine.limitNoted := by
  simp only [noteLimit, bind_apply, view_apply]
  cases limit : machine.stepLimit with
  | none =>
      rw [Machine.limitNoted, limit]
      rfl
  | some value =>
      rw [Machine.limitNoted_of_some limit]
      rfl

theorem turn_apply (machine : Machine) :
    turn machine =
      if machine.registers.pc = topAddress then .ok (some machine.state) machine
      else if isExhausted machine then .ok (some machine.state) machine.limitNoted
      else match step machine with
        | .ok .continuing next => .ok none next
        | .ok outcome next => .ok (some outcome) next
        | .error interrupt after => .error interrupt after := by
  simp only [turn, bind_apply, pc, view_apply]
  by_cases top : machine.registers.pc = topAddress
  · rw [if_pos top, if_pos top]
    rfl
  · rw [if_neg top, if_neg top]
    simp only [bind_apply, view_apply]
    cases exhausted : isExhausted machine with
    | true =>
        simp only [if_true, bind_apply, noteLimit_apply, view_apply, Machine.state_limitNoted,
          pure_apply]
    | false =>
        simp only [Bool.false_eq_true, if_false, bind_apply]
        cases step machine with
        | error interrupt after => rfl
        | ok outcome next => cases outcome <;> rfl

theorem turn_of_stops {machine : Machine} (stops : machine.Stops) :
    turn machine = .ok (some machine.state) machine.rested := by
  rw [turn_apply, Machine.rested]
  by_cases top : machine.registers.pc = topAddress
  · rw [if_pos top, if_neg fun both => both.1 top]
  · rw [if_neg top]
    by_cases exhausted : isExhausted machine = true
    · rw [if_pos exhausted, if_pos ⟨top, exhausted⟩]
    · rw [if_neg exhausted, if_neg fun both => exhausted both.2]
      have ended : machine.state ≠ .continuing := by
        simpa [Machine.Stops, top, ← Machine.isExhausted_iff, exhausted] using stops
      rw [step_of_ended ended]
      cases state : machine.state with
      | continuing => exact absurd state ended
      | halted => rfl
      | faulted => rfl

theorem turn_of_going {machine : Machine} (goes : ¬machine.Stops) :
    turn machine =
      match step machine with
      | .ok .continuing next => .ok none next
      | .ok outcome next => .ok (some outcome) next
      | .error interrupt after => .error interrupt after := by
  obtain ⟨_, top, exhausted⟩ : machine.state = .continuing ∧
      machine.registers.pc ≠ topAddress ∧ ¬isExhausted machine = true := by
    simpa [Machine.Stops, ← Machine.isExhausted_iff] using goes
  rw [turn_apply, if_neg top, if_neg exhausted]

theorem runOn_of_runEnds {machine : Machine} {count : Nat}
    {result : EStateM.Result Interrupt Machine Outcome} (ends : RunEnds machine count result) :
    machine.runOn = some result := by
  induction ends with
  | rests stops => rw [Machine.runOn, turn_of_stops stops]
  | @ended _ outcome _ goes step ended =>
      rw [Machine.runOn, turn_of_going goes, step]
      cases outcome with
      | continuing => exact absurd rfl ended
      | halted => rfl
      | faulted => rfl
  | failed goes step => rw [Machine.runOn, turn_of_going goes, step]
  | onward goes step _ ih =>
      rw [Machine.runOn, turn_of_going goes, step]
      exact ih

theorem run_of_ending_step {machine next : Machine} {outcome : Outcome} (goes : ¬machine.Stops)
    (step : step machine = .ok outcome next) (ended : outcome ≠ .continuing) :
    run machine = .ok (some outcome) next := by
  rw [run, runOn_of_runEnds (.ended goes step ended)]

theorem runEnds_of_runOn {machine : Machine} {result : EStateM.Result Interrupt Machine Outcome}
    (ran : machine.runOn = some result) : ∃ count, RunEnds machine count result := by
  -- A property of results that survives one more turn holds of every run that ends.
  refine Machine.runOn.partial_correctness
    (fun machine result => ∃ count, RunEnds machine count result) ?_ machine result ran
  intro rest ih machine result turned
  by_cases stops : machine.Stops
  · simp only [turn_of_stops stops, Option.some.injEq] at turned
    subst turned
    exact ⟨0, .rests stops⟩
  · rw [turn_of_going stops] at turned
    cases step : step machine with
    | error interrupt after =>
        simp only [step, Option.some.injEq] at turned
        subst turned
        exact ⟨1, .failed stops step⟩
    | ok outcome next =>
        cases outcome with
        | continuing =>
            simp only [step] at turned
            obtain ⟨count, ends⟩ := ih next result turned
            exact ⟨count + 1, .onward stops step ends⟩
        | halted =>
            simp only [step, Option.some.injEq] at turned
            subst turned
            exact ⟨1, .ended stops step nofun⟩
        | faulted =>
            simp only [step, Option.some.injEq] at turned
            subst turned
            exact ⟨1, .ended stops step nofun⟩

theorem state_of_step {machine next : Machine} {outcome : Outcome}
    (step : step machine = .ok outcome next) : next.state = outcome := by
  by_cases working : machine.state = .continuing
  · obtain ⟨_, _, _, rfl⟩ := step_frame working step
    rfl
  · rw [step_of_ended working, EStateM.Result.ok.injEq] at step
    obtain ⟨rfl, rfl⟩ := step
    rfl

theorem settings_of_step {machine next : Machine} {outcome : Outcome}
    (step : step machine = .ok outcome next) :
    next.keyboard = machine.keyboard ∧ next.stepLimit = machine.stepLimit := by
  by_cases working : machine.state = .continuing
  · obtain ⟨_, _, _, rfl⟩ := step_frame working step
    exact ⟨rfl, rfl⟩
  · rw [step_of_ended working, EStateM.Result.ok.injEq] at step
    obtain ⟨-, rfl⟩ := step
    exact ⟨rfl, rfl⟩

/-- A run that is done in parts comes to the same as the whole run. -/
theorem runFor_eq_run {machine : Machine} {count : Nat}
    {result : EStateM.Result Interrupt Machine Outcome} (ends : RunEnds machine count result) :
    ∀ fuel, count < fuel → runFor fuel machine = run machine := by
  induction ends with
  | rests stops =>
      intro fuel enough
      obtain ⟨rest, rfl⟩ := Nat.exists_eq_add_of_le' enough
      rw [run, runOn_of_runEnds (.rests stops), runFor, bind_apply, turn_of_stops stops]
      rfl
  | @ended _ outcome _ goes step ended =>
      intro fuel enough
      obtain ⟨rest, rfl⟩ := Nat.exists_eq_add_of_le' (Nat.le_of_succ_le enough)
      rw [run, runOn_of_runEnds (.ended goes step ended), runFor, bind_apply,
        turn_of_going goes, step]
      cases outcome with
      | continuing => exact absurd rfl ended
      | halted => rfl
      | faulted => rfl
  | failed goes step =>
      intro fuel enough
      obtain ⟨rest, rfl⟩ := Nat.exists_eq_add_of_le' (Nat.le_of_succ_le enough)
      rw [run, runOn_of_runEnds (.failed goes step), runFor, bind_apply, turn_of_going goes, step]
  | @onward machine next count result goes step rest ih =>
      intro fuel enough
      have positive : 1 ≤ fuel := by omega
      obtain ⟨fuel, rfl⟩ := Nat.exists_eq_add_of_le' positive
      have onward := ih fuel (by omega)
      rw [run, runOn_of_runEnds rest] at onward
      rw [run, runOn_of_runEnds (.onward goes step rest), runFor, bind_apply, turn_of_going goes,
        step]
      cases result <;> exact onward

end Exec

theorem Steps.keyboard {machine last : Machine} {count : Nat} (steps : Steps machine count last) :
    last.keyboard = machine.keyboard := by
  induction steps with
  | none => rfl
  | more step _ ih => exact ih.trans (Exec.settings_of_step step).1

theorem FirstStop.runEnds {machine last : Machine} {count : Nat}
    (first : FirstStop machine count last) :
    RunEnds machine count (.ok last.state (last.leftAfter count)) := by
  induction count generalizing machine with
  | zero =>
      obtain ⟨rfl, stops⟩ := firstStop_zero_iff.mp first
      exact .rests stops
  | succ count ih =>
      obtain ⟨outcome, next, goes, step, rest⟩ := firstStop_succ_iff.mp first
      have state := Exec.state_of_step step
      by_cases working : outcome = .continuing
      · rw [working] at step state
        have same : last.leftAfter (count + 1) = last.leftAfter count := by
          cases count with
          | zero =>
              obtain ⟨rfl, _⟩ := firstStop_zero_iff.mp rest
              simp [Machine.leftAfter, state]
          | succ count => simp [Machine.leftAfter]
        rw [same]
        exact .onward goes step (ih rest)
      · cases count with
        | zero =>
            obtain ⟨rfl, _⟩ := firstStop_zero_iff.mp rest
            have left : last.leftAfter 1 = last := by simp [Machine.leftAfter, state, working]
            rw [left, state]
            exact .ended goes step working
        | succ count =>
            obtain ⟨_, _, onward, _⟩ := firstStop_succ_iff.mp rest
            exact absurd (.inl (state ▸ working)) onward

theorem RunEnds.exists_firstStop {machine : Machine} {count : Nat}
    {result : EStateM.Result Interrupt Machine Outcome} (ends : RunEnds machine count result)
    {outcome : Outcome} {after : Machine} (ok : result = .ok outcome after) :
    ∃ last, FirstStop machine count last := by
  induction ends with
  | @rests machine stops => exact ⟨machine, firstStop_zero_iff.mpr ⟨rfl, stops⟩⟩
  | @ended machine outcome next goes step ended =>
      have stops : next.Stops := .inl (Exec.state_of_step step ▸ ended)
      exact ⟨next, firstStop_succ_iff.mpr
        ⟨outcome, next, goes, step, firstStop_zero_iff.mpr ⟨rfl, stops⟩⟩⟩
  | failed => cases ok
  | onward goes step _ ih =>
      obtain ⟨last, rest⟩ := ih ok
      exact ⟨last, firstStop_succ_iff.mpr ⟨_, _, goes, step, rest⟩⟩

theorem FirstStop.run_eq {machine last : Machine} {count : Nat}
    (first : FirstStop machine count last) :
    Exec.run machine = .ok (some last.state) (last.leftAfter count) := by
  rw [Exec.run, Exec.runOn_of_runEnds first.runEnds]

theorem run_eq_some_iff {machine after : Machine} {outcome : Outcome} :
    Exec.run machine = .ok (some outcome) after ↔
      ∃ count last, FirstStop machine count last ∧
        outcome = last.state ∧ after = last.leftAfter count := by
  constructor
  · intro ran
    have result : machine.runOn = some (.ok outcome after) := by
      rw [Exec.run] at ran
      cases on : machine.runOn with
      | none => simp [on] at ran
      | some result =>
          cases result with
          | error interrupt after => simp [on] at ran
          | ok result last =>
              simp only [on, EStateM.Result.ok.injEq, Option.some.injEq] at ran
              rw [ran.1, ran.2]
    obtain ⟨count, ends⟩ := Exec.runEnds_of_runOn result
    obtain ⟨last, first⟩ := ends.exists_firstStop rfl
    have again := Exec.runOn_of_runEnds first.runEnds
    rw [result, Option.some.injEq, EStateM.Result.ok.injEq] at again
    exact ⟨count, last, first, again⟩
  · rintro ⟨count, last, first, rfl, rfl⟩
    exact first.run_eq

end Lc3
