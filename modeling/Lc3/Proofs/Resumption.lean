import Lc3.Proofs.HiddenCells
import Lc3.Proofs.Progress

/-!
Runs that are left off at a step limit and taken up again under a later one. No instruction depends
on the limit, and whatever a run has reached is in the machine, so that nothing is lost where it is
cut in two.
-/

namespace Lc3

theorem Memory.AgreeOutside.eq_of_nothing_hidden {left right : Memory}
    (agree : left.AgreeOutside (fun _ => False) right) : right = left := by
  obtain ⟨cells⟩ := left
  obtain ⟨cells'⟩ := right
  congr 1
  ext index bound : 1
  have same := agree (BitVec.ofNat 16 index) id
  simpa [get, Vector.get, Nat.mod_eq_of_lt bound] using same

def Machine.limitedTo (machine : Machine) (limit : Int) : Machine :=
  { machine with stepLimit := some limit }

/-! Steps and limits. -/

theorem Exec.step_limitedTo {machine : Machine} (reachable : machine.keyboard.Reachable)
    (limit : Int) :
    Agree (fun left right => right = left.limitedTo limit) (step machine)
      (step (machine.limitedTo limit)) := by
  let difference : Difference :=
    { keyboard := machine.keyboard
      hidden := fun _ => False
      leftLimit := machine.stepLimit
      rightLimit := some limit }
  have twins : Twins difference machine (machine.limitedTo limit) :=
    ⟨rfl, rfl, rfl, fun _ _ => rfl⟩
  obtain ⟨effects, stepped⟩ := StepEffects.exists_effects reachable
  have agree := stepped.agree reachable (fun _ _ hidden => False.elim hidden) twins
  refine agree.mono fun left right again => ?_
  rw [again.rest, again.cells.eq_of_nothing_hidden]
  rfl

theorem Machine.Stops.earlier {machine : Machine} {first second : Int} (ordered : first ≤ second)
    (stops : (machine.limitedTo second).Stops) : (machine.limitedTo first).Stops := by
  rcases stops with ended | top | ⟨_, ⟨⟩, reached⟩
  · exact .inl ended
  · exact .inr (.inl top)
  · exact .inr (.inr ⟨first, rfl, Int.le_trans ordered reached⟩)

/-- On the way to the first stop under a limit is the first stop under an earlier one. -/
theorem FirstStop.split {machine last : Machine} {count : Nat} {first second : Int}
    (whole : FirstStop (machine.limitedTo second) count last)
    (reachable : machine.keyboard.Reachable) (ordered : first ≤ second) :
    ∃ earlier between later, FirstStop (machine.limitedTo first) earlier between ∧
      FirstStop (between.limitedTo second) later last := by
  induction count generalizing machine with
  | zero =>
      obtain ⟨-, stops⟩ := firstStop_zero_iff.mp whole
      exact ⟨0, machine.limitedTo first, 0,
        firstStop_zero_iff.mpr ⟨rfl, stops.earlier ordered⟩, whole⟩
  | succ count ih =>
      by_cases stops : (machine.limitedTo first).Stops
      · exact ⟨0, machine.limitedTo first, count + 1, firstStop_zero_iff.mpr ⟨rfl, stops⟩, whole⟩
      · obtain ⟨outcome, next, _, step, rest⟩ := firstStop_succ_iff.mp whole
        obtain ⟨keyboard, limit⟩ := Exec.settings_of_step step
        have again : next.limitedTo second = next := by
          obtain ⟨_, _, _, _, _, _, _, _, _, _⟩ := next
          cases limit
          rfl
        have reaches : (machine.limitedTo second).keyboard.Reachable := reachable
        have agree := Exec.step_limitedTo reaches first
        rw [step] at agree
        obtain ⟨_, stepped, rfl⟩ := agree.of_ok
        obtain ⟨earlier, between, later, cut, onward⟩ :=
          ih (again.symm ▸ rest) (keyboard ▸ reachable)
        exact ⟨earlier + 1, between, later,
          firstStop_succ_iff.mpr ⟨outcome, _, stops, stepped, cut⟩, onward⟩

/-! Warnings of a step limit. -/

/-- The terminal without the warnings of a step limit in its log. -/
def Terminal.unwarned (terminal : Terminal) : Terminal :=
  { terminal with log := terminal.log.filter (!·.isLimit) }

def Machine.unwarned (machine : Machine) : Machine :=
  { machine with terminal := machine.terminal.unwarned }

theorem Terminal.unwarned_eq_iff {left right : Terminal} :
    left.unwarned = right.unwarned ↔ left.console = right.console ∧
      left.log.filter (!·.isLimit) = right.log.filter (!·.isLimit) := by
  rw [unwarned, unwarned, Terminal.mk.injEq]

theorem Terminal.unwarned_note {left right : Terminal} (same : left.unwarned = right.unwarned)
    (message : Message) : (left.note message).unwarned = (right.note message).unwarned := by
  rw [unwarned_eq_iff] at same ⊢
  exact ⟨same.1, by simp only [note, List.filter_cons, same.2]⟩

/-- The services see the console alone. -/
theorem unwarned_simulation :
    Simulation fun left right => left.unwarned = right.unwarned where
  readChar := by
    rintro ⟨console, log⟩ ⟨console', log'⟩ same
    obtain ⟨rfl, logs⟩ := Terminal.unwarned_eq_iff.mp same
    simp only [Terminal.readChar]
    obtain ⟨reading, after⟩ := console.readLine
    have onward : Terminal.unwarned ⟨after, log⟩ = Terminal.unwarned ⟨after, log'⟩ :=
      Terminal.unwarned_eq_iff.mpr ⟨rfl, logs⟩
    cases reading with
    | line line => exact ⟨rfl, onward⟩
    | failure fault =>
        by_cases absorbed : fault.absorbedByRead = true
        · simp only [if_pos absorbed]
          exact ⟨rfl, Terminal.unwarned_note onward _⟩
        · simp only [if_neg absorbed]
          exact ⟨rfl, onward⟩
  print := by
    rintro text ⟨console, log⟩ ⟨console', log'⟩ same
    obtain ⟨rfl, logs⟩ := Terminal.unwarned_eq_iff.mp same
    simp only [Terminal.print]
    obtain ⟨failure, after⟩ := console.write text
    have onward : Terminal.unwarned ⟨after, log⟩ = Terminal.unwarned ⟨after, log'⟩ :=
      Terminal.unwarned_eq_iff.mpr ⟨rfl, logs⟩
    cases failure with
    | none => exact ⟨rfl, onward⟩
    | some fault =>
        by_cases absorbed : fault.absorbedByWrite = true
        · simp only [if_pos absorbed]
          exact ⟨rfl, Terminal.unwarned_note onward _⟩
        · simp only [if_neg absorbed]
          exact ⟨rfl, onward⟩
  note _ same := Terminal.unwarned_note same _

theorem Machine.unwarned_of_alike {left right : Machine}
    (alike : Alike (fun left right => left.unwarned = right.unwarned) left right) :
    left.unwarned = right.unwarned := by
  rw [unwarned, unwarned, alike.terminals, alike.rest]

theorem Machine.unwarned_leftAfter (count : Nat) (last : Machine) :
    (last.leftAfter count).unwarned = last.unwarned := by
  have noted : last.limitNoted.unwarned = last.unwarned := by
    unfold limitNoted
    split
    · simp [unwarned, Terminal.unwarned, Terminal.note, Message.isLimit]
    · rfl
  unfold leftAfter rested
  split
  · split
    · exact noted
    · rfl
  · rfl

/-! Runs that are taken up again. -/

/-- A machine that is left off, with the same control unit or with a fresh one, is the machine at
the stop but for a warning. -/
theorem Machine.alike_leftAfter {last resumed : Machine} {count : Nat} (limit : Int)
    (reachable : last.keyboard.Reachable)
    (left : resumed = last.leftAfter count ∨
      last.state = .continuing ∧ resumed = (last.leftAfter count).renew) :
    Alike (fun left right => left.unwarned = right.unwarned) (last.limitedTo limit)
      (resumed.limitedTo limit) := by
  have same : resumed = last.leftAfter count := by
    rcases left with rfl | ⟨continuing, rfl⟩
    · rfl
    · rw [leftAfter_eq, renew, ← continuing]
  have terminals := congrArg Machine.terminal (last.unwarned_leftAfter count)
  refine ⟨reachable, same ▸ terminals.symm, ?_⟩
  rw [same, leftAfter_eq]
  rfl

/-- Under a limit, the run of a machine whose console passes no failure on is not interrupted. -/
theorem Machine.Forgiving.run_ne_error {machine : Machine} (forgiving : machine.Forgiving)
    (reachable : machine.keyboard.Reachable) (limit : Int) (interrupt : Interrupt)
    (after : Machine) : Exec.run (machine.limitedTo limit) ≠ .error interrupt after := by
  have limited : (machine.limitedTo limit).stepLimit = some limit := rfl
  obtain ⟨count, last, first⟩ := FirstStop.exists_of_limit limited reachable forgiving
  rw [first.run_apply]
  nofun

/-- A run that is left off under a limit and taken up again under a later one, by the same control
unit or by a fresh one, comes to what it would have come to without a break. Only the warnings of
limits tell the two apart. -/
theorem resumed_run_loses_nothing {machine : Machine} {first second : Int}
    (reachable : machine.keyboard.Reachable) (ordered : first ≤ second)
    (quiet : ∀ fault after, Exec.run (machine.limitedTo second) ≠ .error (.fault fault) after) :
    ∃ outcome once stopped between,
      Exec.run (machine.limitedTo second) = .ok (some outcome) once ∧
      Exec.run (machine.limitedTo first) = .ok (some stopped) between ∧
      ∀ resumed, resumed = between ∨ stopped = .continuing ∧ resumed = between.renew →
        ∃ twice, Exec.run (resumed.limitedTo second) = .ok (some outcome) twice ∧
          twice.unwarned = once.unwarned := by
  have limited : (machine.limitedTo second).stepLimit = some second := rfl
  obtain ⟨count, last, _, _, ends⟩ := exists_end_of_limit limited reachable
  obtain whole | ⟨_, fault, after, _, failed⟩ := ends
  · obtain ⟨earlier, between, later, cut, onward⟩ := whole.split reachable ordered
    refine ⟨_, _, _, _, whole.run_eq, cut.run_eq, fun resumed either => ?_⟩
    have alike := Machine.alike_leftAfter second (cut.reached.keyboard.symm ▸ reachable) either
    have agree := Lockstep.run unwarned_simulation alike
    rw [onward.run_eq] at agree
    obtain ⟨twice, ran, again⟩ := agree.of_ok
    refine ⟨twice, ran, ?_⟩
    calc twice.unwarned
      _ = (last.leftAfter later).unwarned := (Machine.unwarned_of_alike again).symm
      _ = last.unwarned := last.unwarned_leftAfter later
      _ = (last.leftAfter count).unwarned := (last.unwarned_leftAfter count).symm
  · exact absurd (run_of_failed failed) (quiet fault after)

/-- A program that reads a character and halts, with a break after the first instruction. -/
def Machine.reading : Machine :=
  .load ⟨4, [0xF020, 0xF025]⟩ .standard none defaultHaltMessage
    (.ofSourceSink (.script [.line "a"]) .full)

theorem resumed_reading_loses_nothing :
    ∃ outcome once stopped between,
      Exec.run (Machine.reading.limitedTo 5) = .ok (some outcome) once ∧
      Exec.run (Machine.reading.limitedTo 1) = .ok (some stopped) between ∧
      ∀ resumed, resumed = between ∨ stopped = .continuing ∧ resumed = between.renew →
        ∃ twice, Exec.run (resumed.limitedTo 5) = .ok (some outcome) twice ∧
          twice.unwarned = once.unwarned := by
  have reachable : Machine.reading.keyboard.Reachable := Keyboard.standard_proper.reachable
  have forgiving : Machine.reading.Forgiving := ⟨by nofun, trivial⟩
  have quiet := fun fault => forgiving.run_ne_error reachable 5 (.fault fault)
  exact resumed_run_loses_nothing reachable (by decide) quiet

end Lc3
