import Lc3.Proofs.Request
import Lc3.Proofs.WordOutcome

/-!
Where a run stops and why. Main statement: a run is the iteration of steps up to the first reason
to stop, and its result tells the reason.
-/

namespace Lc3

/-! Warnings of the step limit come from runs alone. -/

def Message.isLimit : Message → Bool
  | .limitReached _ _ => true
  | _ => false

def Machine.limitWarnings (machine : Machine) : Nat := machine.terminal.log.countP (·.isLimit)

theorem Terminal.readChar_log {terminal after : Terminal} {char : Option Word}
    (found : readChar terminal = .ok char after) :
    after.log = terminal.log ∨ ∃ fault, after.log = .readFailed fault :: terminal.log := by
  have reads := terminal.readsChar
  rw [found] at reads
  cases reads with
  | line => exact .inl rfl
  | @absorbed fault => exact .inr ⟨fault, rfl⟩

theorem Terminal.print_log {terminal after : Terminal} {text : Text}
    (taken : print text terminal = .ok () after) :
    after.log = terminal.log ∨ ∃ fault, after.log = .writeFailed fault :: terminal.log := by
  have prints := terminal.prints text
  rw [taken] at prints
  cases prints with
  | taken => exact .inl rfl
  | @absorbed fault => exact .inr ⟨fault, rfl⟩

theorem limitWarnings_stable :
    Stable fun machine after => after.limitWarnings = machine.limitWarnings where
  refl _ := rfl
  trans first second := second.trans first
  registers _ _ := rfl
  memory _ _ := rfl
  readChar := by
    intro machine char terminal found
    rcases Terminal.readChar_log found with same | ⟨fault, noted⟩
    · simp [Machine.limitWarnings, same]
    · simp [Machine.limitWarnings, noted, Message.isLimit]
  print := by
    intro machine text terminal taken
    rcases Terminal.print_log taken with same | ⟨fault, noted⟩
    · simp [Machine.limitWarnings, same]
    · simp [Machine.limitWarnings, noted, Message.isLimit]
  halted _ _ := by simp [Machine.limitWarnings, Terminal.note, Message.isLimit]
  unknownTrap _ _ _ := by simp [Machine.limitWarnings, Terminal.note, Message.isLimit]

theorem limitWarnings_step {machine after : Machine} {outcome : Outcome}
    (step : Exec.step machine = .ok outcome after) :
    after.limitWarnings = machine.limitWarnings := by
  by_cases working : machine.state = .continuing
  · obtain ⟨done, worked, rfl⟩ := (Exec.step_eq_ok_iff working).mp step
    have kept := Exec.Built.work.kept_of_ok limitWarnings_stable worked
    exact kept
  · rw [Exec.step_of_ended working, EStateM.Result.ok.injEq] at step
    rw [step.2]

/-- The latest of so many steps was a trap with such a number. -/
def LatestTrap (machine : Machine) (count : Nat) (vectors : Nat → Prop) : Prop :=
  ∃ earlier before word fetched, count = earlier + 1 ∧ Steps machine earlier before ∧
    Exec.read before.registers.pc before = .ok word fetched ∧
    bitsAt word 12 4 = 15 ∧ vectors (bitsAt word 0 8)

theorem wordOutcome_eq_halted_iff (word : Word) :
    wordOutcome word = .halted ↔ bitsAt word 12 4 = 15 ∧ bitsAt word 0 8 = 0x25 := by
  unfold wordOutcome trapOutcome
  by_cases trap : bitsAt word 12 4 = 15
  · rw [if_pos trap]
    by_cases halt : bitsAt word 0 8 = 0x25
    · simp [trap, halt]
    · rw [if_neg halt]
      constructor
      · intro halted
        split at halted <;> cases halted
      · exact fun both => absurd both.2 halt
  · simp [trap]

theorem wordOutcome_eq_faulted_iff (word : Word) :
    wordOutcome word = .faulted ↔
      bitsAt word 12 4 = 15 ∧ (bitsAt word 0 8 < 0x20 ∨ 0x25 < bitsAt word 0 8) := by
  unfold wordOutcome trapOutcome
  by_cases trap : bitsAt word 12 4 = 15
  · rw [if_pos trap]
    by_cases halt : bitsAt word 0 8 = 0x25
    · simp [trap, halt]
    · by_cases known : 0x20 ≤ bitsAt word 0 8 ∧ bitsAt word 0 8 < 0x25
      · rw [if_neg halt, if_pos known]
        constructor
        · nofun
        · omega
      · rw [if_neg halt, if_neg known]
        constructor
        · intro _
          omega
        · intro _
          rfl
  · simp [trap]

namespace FirstStop

variable {machine last : Machine} {count : Nat}

theorem tick (first : FirstStop machine count last) : last.tick = machine.tick + count := by
  induction count generalizing machine with
  | zero =>
      obtain ⟨rfl, _⟩ := firstStop_zero_iff.mp first
      simp
  | succ count ih =>
      obtain ⟨outcome, next, goes, step, rest⟩ := firstStop_succ_iff.mp first
      have working := Machine.working_of_goes goes
      have later := ih rest
      obtain ⟨_, _, _, rfl⟩ := Exec.step_frame working step
      rw [later]
      simp only
      omega

theorem limitWarnings (first : FirstStop machine count last) :
    last.limitWarnings = machine.limitWarnings := by
  induction count generalizing machine with
  | zero =>
      obtain ⟨rfl, _⟩ := firstStop_zero_iff.mp first
      rfl
  | succ count ih =>
      obtain ⟨outcome, next, _, step, rest⟩ := firstStop_succ_iff.mp first
      exact (ih rest).trans (limitWarnings_step step)

theorem exists_latest (first : FirstStop machine (count + 1) last) :
    ∃ before word fetched, Steps machine count before ∧
      Exec.read before.registers.pc before = .ok word fetched ∧ last.state = wordOutcome word := by
  obtain ⟨before, outcome, earlier, step⟩ := first.reached.exists_last
  have goes := first.first count before (Nat.lt_succ_self count) earlier
  have working := Machine.working_of_goes goes
  obtain ⟨word, fetched, found, decided⟩ := step_outcome working step
  exact ⟨before, word, fetched, earlier, found, (Exec.state_of_step step).trans decided⟩

theorem state_iff_latestTrap (first : FirstStop machine count last)
    (working : machine.state = .continuing) {outcome : Outcome} {vectors : Nat → Prop}
    (ends : outcome ≠ .continuing)
    (decides : ∀ word, wordOutcome word = outcome ↔
      bitsAt word 12 4 = 15 ∧ vectors (bitsAt word 0 8)) :
    last.state = outcome ↔ LatestTrap machine count vectors := by
  cases count with
  | zero =>
      obtain ⟨rfl, _⟩ := firstStop_zero_iff.mp first
      constructor
      · intro same
        exact absurd (same.symm.trans working) ends
      · rintro ⟨earlier, _, _, _, impossible, _⟩
        omega
  | succ count =>
      obtain ⟨before, word, fetched, earlier, found, decided⟩ := first.exists_latest
      rw [decided, decides]
      constructor
      · rintro ⟨trap, vector⟩
        exact ⟨count, before, word, fetched, rfl, earlier, found, trap, vector⟩
      · rintro ⟨count', before', word', fetched', same, earlier', found', trap, vector⟩
        obtain rfl : count = count' := by omega
        obtain rfl := earlier.deterministic earlier'
        rw [found, EStateM.Result.ok.injEq] at found'
        obtain ⟨rfl, rfl⟩ := found'
        exact ⟨trap, vector⟩

/-- The warning is logged just if the program could have gone on. -/
theorem limitWarnings_leftAfter (first : FirstStop machine count last)
    (working : machine.state = .continuing) :
    (last.leftAfter count).limitWarnings = machine.limitWarnings +
      if last.state = .continuing ∧ last.registers.pc ≠ Exec.topAddress then 1 else 0 := by
  have none : count = 0 → last.state = .continuing := by
    rintro rfl
    obtain ⟨rfl, _⟩ := firstStop_zero_iff.mp first
    exact working
  have same := first.limitWarnings
  by_cases going : last.state = .continuing
  · by_cases top : last.registers.pc = Exec.topAddress
    · simp [Machine.leftAfter, Machine.rested, going, top, same]
    · have limit : last.AtLimit := by
        simpa [Machine.Stops, going, top] using first.stops
      have exhausted := last.isExhausted_iff.mpr limit
      obtain ⟨value, limited, _⟩ := limit
      simp only [Machine.leftAfter, going, or_true, if_true, Machine.rested, top, exhausted,
        ne_eq, not_false_eq_true, and_self]
      rw [Machine.limitNoted_of_some limited, ← same]
      simp [Machine.limitWarnings, Terminal.note, Message.isLimit]
  · have moved : count ≠ 0 := fun zero => going (none zero)
    simp [Machine.leftAfter, going, moved, same]

end FirstStop

theorem Machine.leftAfter_eq (count : Nat) (last : Machine) :
    last.leftAfter count =
      { last with
        terminal := { last.terminal with log := (last.leftAfter count).terminal.log } } := by
  have noted := last.limitNoted_eq
  unfold leftAfter rested
  split
  · split
    · exact noted
    · rfl
  · rfl

theorem FirstStop.run_apply {machine last : Machine} {count : Nat}
    (first : FirstStop machine count last) :
    Exec.run machine = .ok (some last.state)
      { last with
        terminal := { last.terminal with log := (last.leftAfter count).terminal.log } } := by
  rw [first.run_eq, ← last.leftAfter_eq]

/-! Requests to a machine whose program has ended. -/

theorem Exec.perform_of_ended {machine : Machine} (ended : machine.state ≠ .continuing)
    {request : Request} (asked : request = .step ∨ request = .run) :
    ∃ log, perform request machine =
      .ok (.outcome (some machine.state))
        { machine with terminal := { machine.terminal with log } } := by
  rcases asked with rfl | rfl
  · refine ⟨machine.terminal.log, ?_⟩
    simp only [perform, bind_apply, step_of_ended ended, pure_apply]
  · have first : FirstStop machine 0 machine := firstStop_zero_iff.mpr ⟨rfl, .inl ended⟩
    refine ⟨(machine.leftAfter 0).terminal.log, ?_⟩
    simp only [perform, bind_apply, first.run_apply, pure_apply]

theorem Exec.performAll_of_ended {machine : Machine} (ended : machine.state ≠ .continuing)
    {requests : List Request} (asked : ∀ request ∈ requests, request = .step ∨ request = .run) :
    ∃ log, performAll requests machine =
      (requests.map fun _ => .ok (.outcome (some machine.state)),
        { machine with terminal := { machine.terminal with log } }) := by
  induction requests generalizing machine with
  | nil => exact ⟨machine.terminal.log, rfl⟩
  | cons request requests ih =>
      obtain ⟨log, performed⟩ := perform_of_ended ended (asked request List.mem_cons_self)
      have still : ({ machine with terminal := { machine.terminal with log } } : Machine).state ≠
          .continuing := ended
      obtain ⟨last, rest⟩ := ih still fun later member =>
        asked later (List.mem_cons_of_mem request member)
      refine ⟨last, ?_⟩
      rw [performAll, performed]
      simp only [rest, List.map_cons]

/-- A run is the iteration of steps up to the first machine with a reason to stop. -/
theorem run_iterates_step (machine : Machine) :
    ((∃ outcome after, Exec.run machine = .ok (some outcome) after) ↔
      ∃ count last, FirstStop machine count last) ∧
    (∀ count last, FirstStop machine count last →
      ∃ log, Exec.run machine =
          .ok (some last.state) { last with terminal := { last.terminal with log } } ∧
        (machine.state = .continuing →
          last.tick = machine.tick + count ∧
          (last.state = .halted ↔ LatestTrap machine count (· = 0x25)) ∧
          (last.state = .faulted ↔
            LatestTrap machine count fun vector => vector < 0x20 ∨ 0x25 < vector) ∧
          log.countP (·.isLimit) = machine.terminal.log.countP (·.isLimit) +
            if last.state = .continuing ∧ last.registers.pc ≠ Exec.topAddress then 1 else 0)) ∧
    (machine.state ≠ .continuing →
      ∀ requests : List Request, (∀ request ∈ requests, request = .step ∨ request = .run) →
        ∃ log, Exec.performAll requests machine =
          (requests.map fun _ => .ok (.outcome (some machine.state)),
            { machine with terminal := { machine.terminal with log } })) := by
  refine ⟨⟨?_, ?_⟩, ?_, fun ended requests asked => Exec.performAll_of_ended ended asked⟩
  · rintro ⟨outcome, after, ran⟩
    obtain ⟨count, last, first, _⟩ := run_eq_some_iff.mp ran
    exact ⟨count, last, first⟩
  · rintro ⟨count, last, first⟩
    exact ⟨_, _, first.run_apply⟩
  · intro count last first
    refine ⟨_, first.run_apply, fun working => ⟨first.tick, ?_, ?_, ?_⟩⟩
    · exact first.state_iff_latestTrap working nofun wordOutcome_eq_halted_iff
    · exact first.state_iff_latestTrap working nofun wordOutcome_eq_faulted_iff
    · exact first.limitWarnings_leftAfter working

/-- A machine about to halt with the only step that its limit allows. -/
def Machine.halting : Machine :=
  .load ⟨0, [0xF025]⟩ .standard (some 1) (Text.ofString "bye") (.ofSourceSink (.script []) .full)

theorem halting_run_iterates_step :
    Machine.halting.state = .continuing ∧
    ∃ last log, FirstStop Machine.halting 1 last ∧
      Exec.run Machine.halting =
        .ok (some last.state) { last with terminal := { last.terminal with log } } ∧
      last.tick = 1 ∧ (last.state = .halted ↔ LatestTrap Machine.halting 1 (· = 0x25)) := by
  have goes : ¬Machine.halting.Stops := by
    rintro (ended | top | ⟨limit, ⟨⟩, reached⟩)
    · exact ended rfl
    · exact absurd top (by decide)
    · exact absurd reached (by decide)
  obtain ⟨next, step⟩ : ∃ next, Exec.step Machine.halting = .ok .halted next := ⟨_, rfl⟩
  have ended : next.state ≠ .continuing := by
    rw [Exec.state_of_step step]
    decide
  have first : FirstStop Machine.halting 1 next := firstStop_succ_iff.mpr
    ⟨.halted, next, goes, step, firstStop_zero_iff.mpr ⟨rfl, .inl ended⟩⟩
  obtain ⟨log, ran, rest⟩ := (run_iterates_step Machine.halting).2.1 1 next first
  obtain ⟨tick, halted, _⟩ := rest rfl
  exact ⟨rfl, next, log, first, ran, tick, halted⟩

end Lc3
