import Lc3.Proofs.DeviceFailure
import Lc3.Proofs.Termination

/-!
Machines whose console passes no failure on. Each of their steps ends well, so they make as many
steps as are asked of them, and their runs under a limit have a result.
-/

namespace Lc3

/-- The source fails in no way that is passed on. -/
def Source.Forgiving : Source → Prop
  | .script entries => ∀ fault, .failure fault ∈ entries → fault.absorbedByRead = true
  | .stream _ _ | .undecodable => True

theorem Source.Forgiving.readLine {source : Source} (forgiving : source.Forgiving) :
    (∀ fault, source.readLine.1 = .failure fault → fault.absorbedByRead = true) ∧
      source.readLine.2.Forgiving := by
  cases source with
  | script entries =>
      cases entries with
      | nil =>
          refine ⟨?_, forgiving⟩
          intro fault failed
          cases failed
      | cons entry entries =>
          refine ⟨?_, ?_⟩
          · intro fault failed
            exact forgiving fault (List.mem_cons.mpr (.inl failed.symm))
          · intro fault member
            exact forgiving fault (List.mem_cons_of_mem entry member)
  | undecodable =>
      refine ⟨?_, trivial⟩
      intro fault failed
      cases failed
      rfl
  | stream text ending =>
      simp only [Source.readLine]
      split
      · refine ⟨?_, trivial⟩
        intro fault failed
        cases failed
      · refine ⟨?_, trivial⟩
        intro fault failed
        cases failed
      · refine ⟨?_, trivial⟩
        intro fault failed
        cases failed
        rfl

structure Console.Forgiving (console : Console) : Prop where
  source : console.source.Forgiving
  sink : console.sink.Forgiving

theorem Terminal.readChar_of_forgiving {terminal : Terminal}
    (forgiving : terminal.console.Forgiving) :
    ∃ char after, readChar terminal = .ok char after ∧ after.console.Forgiving := by
  obtain ⟨passable, onward⟩ := forgiving.source.readLine
  have reads := terminal.readsChar
  generalize readChar terminal = result at reads ⊢
  cases reads with
  | line taken =>
      obtain ⟨-, rfl⟩ := Prod.mk.inj taken
      exact ⟨_, _, rfl, onward, forgiving.sink⟩
  | absorbed taken =>
      obtain ⟨-, rfl⟩ := Prod.mk.inj taken
      exact ⟨_, _, rfl, onward, forgiving.sink⟩
  | @passedOn fault _ taken passed =>
      obtain ⟨failed, -⟩ := Prod.mk.inj taken
      rw [passable fault failed] at passed
      cases passed

theorem Terminal.print_of_forgiving {terminal : Terminal}
    (forgiving : terminal.console.Forgiving) (text : Text) :
    ∃ after, print text terminal = .ok () after ∧ after.console.Forgiving := by
  obtain ⟨passable, onward⟩ := forgiving.sink.write text
  have prints := terminal.prints text
  generalize print text terminal = result at prints ⊢
  cases prints with
  | taken put =>
      obtain ⟨-, rfl⟩ := Prod.mk.inj put
      exact ⟨_, rfl, forgiving.source, onward⟩
  | absorbed put =>
      obtain ⟨-, rfl⟩ := Prod.mk.inj put
      exact ⟨_, rfl, forgiving.source, onward⟩
  | @passedOn fault _ put passed =>
      obtain ⟨failed, -⟩ := Prod.mk.inj put
      rw [passable fault failed] at passed
      cases passed

def Machine.Forgiving (machine : Machine) : Prop := machine.terminal.console.Forgiving

theorem forgiving_stable : Stable fun machine after => machine.Forgiving → after.Forgiving where
  refl _ forgiving := forgiving
  trans first second forgiving := second (first forgiving)
  registers _ _ forgiving := forgiving
  memory _ _ forgiving := forgiving
  readChar := by
    intro machine char terminal found forgiving
    obtain ⟨_, _, found', onward⟩ := Terminal.readChar_of_forgiving forgiving
    rw [found, EStateM.Result.ok.injEq] at found'
    exact found'.2 ▸ onward
  print := by
    intro machine text terminal taken forgiving
    obtain ⟨_, taken', onward⟩ := Terminal.print_of_forgiving forgiving text
    rw [taken, EStateM.Result.ok.injEq] at taken'
    exact taken'.2 ▸ onward
  halted _ _ forgiving := forgiving
  unknownTrap _ _ _ forgiving := forgiving

theorem Fails.not_forgiving {machine after : Machine} {fault : Fault}
    (fails : Fails machine (.fault fault) after) : ¬machine.Forgiving := by
  intro forgiving
  cases fails with
  | read failed =>
      obtain ⟨_, _, found, _⟩ := Terminal.readChar_of_forgiving forgiving
      rw [failed] at found
      cases found
  | @print text _ _ failed =>
      obtain ⟨_, taken, _⟩ := Terminal.print_of_forgiving forgiving text
      rw [failed] at taken
      cases taken

theorem Exec.step_of_forgiving {machine : Machine} (reachable : machine.keyboard.Reachable)
    (forgiving : machine.Forgiving) :
    ∃ outcome after, step machine = .ok outcome after ∧
      after.keyboard.Reachable ∧ after.Forgiving := by
  by_cases working : machine.state = .continuing
  · cases worked : work machine with
    | ok outcome done =>
        have onward := Built.work.kept_of_ok forgiving_stable worked forgiving
        have keyboard : done.keyboard.Reachable := by
          obtain ⟨_, _, _, rfl⟩ := Built.work.frame worked
          exact reachable
        exact ⟨_, _, (step_eq_ok_iff working).mpr ⟨done, worked, rfl⟩, keyboard, onward⟩
    | error interrupt after =>
        obtain ⟨between, kept, fails⟩ := Built.work.stopped forgiving_stable worked
        cases interrupt with
        | fault fault => exact absurd (kept forgiving) fails.not_forgiving
        | endlessString => exact absurd worked (Built.work.not_endless reachable after)
  · exact ⟨_, _, step_of_ended working, reachable, forgiving⟩

namespace Steps

variable {machine last : Machine} {count : Nat}

theorem forgiving (steps : Steps machine count last) (reachable : machine.keyboard.Reachable)
    (forgiving : machine.Forgiving) : last.keyboard.Reachable ∧ last.Forgiving := by
  induction steps with
  | none => exact ⟨reachable, forgiving⟩
  | more step _ ih =>
      obtain ⟨_, _, step', again, onward⟩ := Exec.step_of_forgiving reachable forgiving
      rw [step, EStateM.Result.ok.injEq] at step'
      obtain ⟨rfl, rfl⟩ := step'
      exact ih again onward

theorem exists_of_forgiving (reachable : machine.keyboard.Reachable)
    (forgiving : machine.Forgiving) (count : Nat) : ∃ last, Steps machine count last := by
  induction count generalizing machine with
  | zero => exact ⟨machine, .none⟩
  | succ count ih =>
      obtain ⟨_, next, step, again, onward⟩ := Exec.step_of_forgiving reachable forgiving
      obtain ⟨last, steps⟩ := ih again onward
      exact ⟨last, .more step steps⟩

end Steps

theorem FirstStop.exists_of_limit {machine : Machine} {limit : Int}
    (limited : machine.stepLimit = some limit) (reachable : machine.keyboard.Reachable)
    (forgiving : machine.Forgiving) : ∃ count last, FirstStop machine count last := by
  obtain ⟨count, last, _, steps, ends⟩ := exists_end_of_limit limited reachable
  rcases ends with first | ⟨_, fault, after, failed, _⟩
  · exact ⟨count, last, first⟩
  · obtain ⟨again, onward⟩ := steps.forgiving reachable forgiving
    obtain ⟨_, _, step, _⟩ := Exec.step_of_forgiving again onward
    rw [failed] at step
    cases step

end Lc3
