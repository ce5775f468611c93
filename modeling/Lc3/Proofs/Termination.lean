import Lc3.Proofs.RunStops

/-!
Runs under a step limit end. Steps end because every walk over a string does: the distance to the
status register and the lines left bound the number of its reads.
-/

namespace Lc3

theorem Exec.step_not_endless {machine after : Machine} {interrupt : Interrupt}
    (reachable : machine.keyboard.Reachable) (failed : step machine = .error interrupt after) :
    ∃ fault, interrupt = .fault fault := by
  by_cases working : machine.state = .continuing
  · rw [step_eq_error_iff working] at failed
    cases interrupt with
    | fault fault => exact ⟨fault, rfl⟩
    | endlessString => exact absurd failed (Built.work.not_endless reachable after)
  · rw [step_of_ended working] at failed
    cases failed

def Machine.allowance (machine : Machine) (limit : Int) : Nat := (limit - machine.tick).toNat

/-- A run under a limit stops within it, or a step within it passes a failure on. -/
theorem exists_end_of_limit {machine : Machine} {limit : Int}
    (limited : machine.stepLimit = some limit) (reachable : machine.keyboard.Reachable) :
    ∃ count last, count ≤ machine.allowance limit ∧ Steps machine count last ∧
      (FirstStop machine count last ∨
        count < machine.allowance limit ∧ ∃ fault after,
          Exec.step last = .error (.fault fault) after ∧
          RunEnds machine (count + 1) (.error (.fault fault) after)) := by
  -- A step takes one from the allowance and leaves the limit and the keyboard as they are.
  generalize left : machine.allowance limit = allowance
  induction allowance generalizing machine with
  | zero =>
      have spent : machine.Stops := by
        refine .inr (.inr ⟨limit, limited, ?_⟩)
        simp only [Machine.allowance] at left
        omega
      exact ⟨0, machine, Nat.le_refl 0, .none, .inl (firstStop_zero_iff.mpr ⟨rfl, spent⟩)⟩
  | succ allowance ih =>
      by_cases stops : machine.Stops
      · exact ⟨0, machine, Nat.zero_le _, .none, .inl (firstStop_zero_iff.mpr ⟨rfl, stops⟩)⟩
      have working := Machine.working_of_goes stops
      cases step : Exec.step machine with
      | error interrupt after =>
          obtain ⟨fault, rfl⟩ := Exec.step_not_endless reachable step
          exact ⟨0, machine, Nat.zero_le _, .none,
            .inr ⟨Nat.succ_pos allowance, fault, after, step, .failed stops step⟩⟩
      | ok outcome next =>
          obtain ⟨_, _, _, moved⟩ := Exec.step_frame working step
          have fewer : next.allowance limit = allowance := by
            rw [moved]
            simp only [Machine.allowance] at left ⊢
            omega
          have still : next.stepLimit = some limit := by rw [moved]; exact limited
          have again : next.keyboard.Reachable := by rw [moved]; exact reachable
          obtain ⟨count, last, bound, steps, ends⟩ := ih still again fewer
          refine ⟨count + 1, last, Nat.succ_le_succ bound, .more step steps, ?_⟩
          rcases ends with first | ⟨less, fault, after, failed, rest⟩
          · exact .inl (firstStop_succ_iff.mpr ⟨outcome, next, stops, step, first⟩)
          · have going : outcome = .continuing := by
              rw [← Exec.state_of_step step]
              cases rest with
              | failed goes _ => exact Machine.working_of_goes goes
              | onward goes _ _ => exact Machine.working_of_goes goes
            rw [going] at step
            exact .inr ⟨Nat.succ_lt_succ less, fault, after, failed, .onward stops step rest⟩

theorem run_of_failed {machine after : Machine} {count : Nat} {interrupt : Interrupt}
    (ends : RunEnds machine count (.error interrupt after)) :
    Exec.run machine = .error interrupt after := by
  rw [Exec.run, Exec.runOn_of_runEnds ends]

def Walk.printed (textOf : List Word → Text) (words : List Word) (interrupt : Option Interrupt)
    (after : Machine) : EStateM.Result Interrupt Machine Outcome :=
  match interrupt with
  | none => (do Exec.print (textOf words); return .continuing : Exec Outcome) after
  | some interrupt => .error interrupt after

theorem Walk.print_apply {action : Exec (List Word)} {machine after : Machine} {words : List Word}
    {interrupt : Option Interrupt} (walked : action machine = result words interrupt after)
    (textOf : List Word → Text) :
    (do Exec.print (textOf (← action)); return .continuing : Exec Outcome) machine =
      printed textOf words interrupt after := by
  rw [Exec.bind_apply, walked]
  cases interrupt <;> rfl

theorem print_string_apply {machine after : Machine} {reads : Nat} {words : List Word}
    {interrupt : Option Interrupt} (reachable : machine.keyboard.Reachable)
    (walk : Walk machine (machine.registers.get 0) reads words interrupt after)
    (textOf : List Word → Text) :
    (do Exec.print (textOf (← Exec.readString (← Exec.register 0))); return .continuing :
        Exec Outcome) machine = Walk.printed textOf words interrupt after := by
  rw [Exec.bind_apply]
  exact Walk.print_apply (walk.readString_eq reachable) textOf

theorem patience_eq (machine : Machine) (address : Word) {entries : List Reading}
    (script : machine.terminal.console.source = .script entries) :
    (machine.patience address : Int) =
      (machine.keyboard.status - address.toNat) % 65536 + 65536 * entries.length := by
  have status := toNat_wordOf machine.keyboard.status
  have bound := address.isLt
  rw [Machine.patience, script, Source.remaining, BitVec.toNat_sub]
  omega

/-- With a step limit every run ends, strings without a zero word included. -/
theorem limited_run_ends :
    (∀ files image config entries sink machine limit,
      build files image config (Console.ofSourceSink (.script entries) sink) = .ok machine →
      machine.stepLimit = some limit →
      ∃ (count : Nat) (last : Machine), (count : Int) ≤ limit ∧ Steps machine count last ∧
        ((∃ log, Exec.run machine =
            .ok (some last.state) { last with terminal := { last.terminal with log } }) ∨
          (count : Int) < limit ∧ ∃ fault after,
            Exec.step last = .error (.fault fault) after ∧
            Exec.run machine = .error (.fault fault) after)) ∧
    (∀ (machine : Machine) entries, machine.keyboard.Reachable →
      machine.terminal.console.source = .script entries →
      ∃ reads words interrupt after,
        Walk machine (machine.registers.get 0) reads words interrupt after ∧
        (reads : Int) ≤ (machine.keyboard.status - (machine.registers.get 0).toNat) % 65536 +
          65536 * entries.length + 1 ∧
        Exec.serve .puts machine = Walk.printed textOfWords words interrupt after ∧
        Exec.serve .putsp machine = Walk.printed textOfPackedWords words interrupt after) := by
  constructor
  · intro files image config entries sink machine limit built limited
    obtain ⟨image, config, rfl, _⟩ := build_eq_ok built
    have reachable := (Machine.ofConfig_proper image config
      (Console.ofSourceSink (.script entries) sink)).reachable
    obtain ⟨count, last, bound, steps, ends⟩ := exists_end_of_limit limited reachable
    have positive : 0 < limit := by
      obtain ⟨value, chosen, rfl⟩ := Option.map_eq_some_iff.mp limited
      exact Int.natCast_pos.mpr (config.positive value chosen)
    have allowed : ((Machine.ofConfig image config
        (Console.ofSourceSink (.script entries) sink)).allowance limit : Int) = limit := by
      change ((limit - 0).toNat : Int) = limit
      omega
    refine ⟨count, last, by omega, steps, ?_⟩
    rcases ends with first | ⟨less, fault, after, failed, rest⟩
    · exact .inl ⟨_, first.run_apply⟩
    · exact .inr ⟨by omega, fault, after, failed, run_of_failed rest⟩
  · intro machine entries reachable script
    obtain ⟨reads, words, interrupt, after, walk⟩ :=
      Walk.exists_of_reachable reachable (machine.registers.get 0)
    have bound := walk.reads_le reachable
    have patience := patience_eq machine (machine.registers.get 0) script
    exact ⟨reads, words, interrupt, after, walk, by omega,
      print_string_apply reachable walk textOfWords,
      print_string_apply reachable walk textOfPackedWords⟩

theorem limited_halt_ends :
    let image : Value := .bytes .constant [0x30, 0x00, 0xF0, 0x25]
    let config : Value := .mapping [(.text (Text.ofString "step_limit"), .int 3)]
    let console := Console.ofSourceSink (.script []) .full
    ∃ machine, build ⟨[]⟩ image config console = .ok machine ∧ machine.stepLimit = some 3 ∧
      (∃ (count : Nat) (last : Machine), (count : Int) ≤ 3 ∧ Steps machine count last ∧
        ((∃ log, Exec.run machine =
            .ok (some last.state) { last with terminal := { last.terminal with log } }) ∨
          (count : Int) < 3 ∧ ∃ fault after,
            Exec.step last = .error (.fault fault) after ∧
            Exec.run machine = .error (.fault fault) after)) ∧
      machine.keyboard.Reachable ∧ machine.terminal.console.source = .script [] ∧
      ∃ reads words interrupt after,
        Walk machine (machine.registers.get 0) reads words interrupt after ∧
        (reads : Int) ≤ (machine.keyboard.status - (machine.registers.get 0).toNat) % 65536 + 1 ∧
        Exec.serve .puts machine = Walk.printed textOfWords words interrupt after ∧
        Exec.serve .putsp machine = Walk.printed textOfPackedWords words interrupt after := by
  intro image config console
  have reachable : Keyboard.standard.Reachable := Keyboard.standard_proper.reachable
  exact ⟨_, rfl, rfl, limited_run_ends.1 ⟨[]⟩ image config [] .full _ 3 rfl rfl, reachable, rfl,
    limited_run_ends.2 _ [] reachable rfl⟩

end Lc3
