import Lc3.Proofs.StringWalk

/-!
What instructions leave alone. A relation between the machine before and the machine after that
every single effect keeps is kept by every action built of them, up to the point where the action
ends or a call of the console stops it.
-/

namespace Lc3

structure Stable (kept : Machine → Machine → Prop) : Prop where
  refl : ∀ machine, kept machine machine
  trans : ∀ {first second third}, kept first second → kept second third → kept first third
  registers : ∀ machine registers, kept machine { machine with registers }
  memory : ∀ machine memory, kept machine { machine with memory }
  readChar : ∀ {machine char terminal},
    Terminal.readChar machine.terminal = .ok char terminal → kept machine { machine with terminal }
  print : ∀ {machine text terminal},
    Terminal.print text machine.terminal = .ok () terminal → kept machine { machine with terminal }
  halted : ∀ machine steps,
    kept machine { machine with terminal := machine.terminal.note (.halted steps) }
  unknownTrap : ∀ machine vector pc,
    kept machine { machine with terminal := machine.terminal.note (.unknownTrap vector pc) }

/-- How an action is stopped at a machine: by a call of the console, or by a string without end. -/
inductive Fails (machine : Machine) : Interrupt → Machine → Prop
  | read {fault terminal} : Terminal.readChar machine.terminal = .error fault terminal →
      Fails machine (.fault fault) { machine with terminal }
  | print {text fault terminal} : Terminal.print text machine.terminal = .error fault terminal →
      Fails machine (.fault fault) { machine with terminal }
  | endless : Fails machine .endlessString machine

/-- An action that keeps a relation to its end, or to where it is stopped. -/
def Keeps (kept : Machine → Machine → Prop) (action : Exec α) : Prop :=
  ∀ machine, match action machine with
    | .ok _ after => kept machine after
    | .error interrupt after => ∃ between, kept machine between ∧ Fails between interrupt after

namespace Keeps

variable {kept : Machine → Machine → Prop}

theorem pure (refl : ∀ machine, kept machine machine) (value : α) : Keeps kept (pure value) :=
  fun machine => refl machine

theorem bind {action : Exec α} {next : α → Exec β} (first : Keeps kept action)
    (rest : ∀ value, Keeps kept (next value))
    (trans : ∀ first second third, kept first second → kept second third → kept first third) :
    Keeps kept (action >>= next) := by
  intro machine
  have before := first machine
  rw [Exec.bind_apply]
  cases done : action machine with
  | error interrupt after =>
      rw [done] at before
      exact before
  | ok value between =>
      rw [done] at before
      have onward := rest value between
      cases ended : next value between with
      | ok result after =>
          rw [ended] at onward
          simp only [ended]
          exact trans _ _ _ before onward
      | error interrupt after =>
          rw [ended] at onward
          simp only [ended]
          obtain ⟨last, reached, fails⟩ := onward
          exact ⟨last, trans _ _ _ before reached, fails⟩

theorem read (stable : Stable kept) (address : Word) : Keeps kept (Exec.read address) := by
  intro machine
  cases status : machine.keyboard.isStatus address with
  | false =>
      rw [Exec.read_of_plain status]
      exact stable.refl machine
  | true =>
      rw [Exec.read_of_status status]
      cases found : Terminal.readChar machine.terminal with
      | ok char terminal => exact stable.trans (stable.readChar found) (stable.memory _ _)
      | error fault terminal => exact ⟨machine, stable.refl machine, .read found⟩

/-- A walk keeps what each of its reads keeps. -/
theorem readString (read : ∀ address, Keeps kept (Exec.read address))
    (refl : ∀ machine, kept machine machine)
    (trans : ∀ first second third, kept first second → kept second third → kept first third)
    (address : Word) : Keeps kept (Exec.readString address) := by
  have words (fuel : Nat) :
      ∀ words address, Keeps kept (Exec.readWordsOnto words fuel address) := by
    induction fuel with
    | zero =>
        intro words address machine
        exact ⟨machine, refl machine, .endless⟩
    | succ fuel ih =>
        intro words address
        refine (read address).bind (fun word => ?_) trans
        split
        · exact pure refl _
        · exact ih _ _
  intro machine
  rw [Exec.readString_apply]
  exact words _ _ _ machine

end Keeps

namespace Exec.Built

variable {kept : Machine → Machine → Prop} {action : Exec α} {machine after : Machine}

theorem keeps (stable : Stable kept) (built : Built action) : Keeps kept action := by
  induction built with
  | pure value => exact .pure stable.refl value
  | bind _ _ first rest => exact first.bind rest fun _ _ _ => stable.trans
  | inspect => exact stable.refl
  | registers => exact fun machine => stable.registers machine _
  | write => exact fun machine => stable.memory machine _
  | halted steps => exact fun machine => stable.halted machine steps
  | unknownTrap vector pc => exact fun machine => stable.unknownTrap machine vector pc
  | readChar =>
      intro machine
      rw [atTerminal_apply]
      cases found : Terminal.readChar machine.terminal with
      | ok char terminal => exact stable.readChar found
      | error fault terminal => exact ⟨machine, stable.refl machine, .read found⟩
  | print text =>
      intro machine
      rw [Exec.print, atTerminal_apply]
      cases taken : Terminal.print text machine.terminal with
      | ok _ terminal => exact stable.print taken
      | error fault terminal => exact ⟨machine, stable.refl machine, .print taken⟩
  | string address =>
      exact .readString (Keeps.read stable) stable.refl (fun _ _ _ => stable.trans) address

theorem kept_of_ok (stable : Stable kept) (built : Built action) {value : α}
    (ended : action machine = .ok value after) : kept machine after := by
  have keeps := built.keeps stable machine
  rwa [ended] at keeps

theorem stopped (stable : Stable kept) (built : Built action) {interrupt : Interrupt}
    (failed : action machine = .error interrupt after) :
    ∃ between, kept machine between ∧ Fails between interrupt after := by
  have keeps := built.keeps stable machine
  rwa [failed] at keeps

end Exec.Built

/-! The rest of the machine: an instruction changes registers, cells and the terminal. -/

def SameFrame (machine after : Machine) : Prop :=
  ∃ registers memory terminal, after = { machine with registers, memory, terminal }

theorem sameFrame_stable : Stable SameFrame where
  refl _ := ⟨_, _, _, rfl⟩
  trans := by
    rintro first _ _ ⟨_, _, _, rfl⟩ ⟨registers, memory, terminal, rfl⟩
    exact ⟨registers, memory, terminal, rfl⟩
  registers _ _ := ⟨_, _, _, rfl⟩
  memory _ _ := ⟨_, _, _, rfl⟩
  readChar _ := ⟨_, _, _, rfl⟩
  print _ := ⟨_, _, _, rfl⟩
  halted _ _ := ⟨_, _, _, rfl⟩
  unknownTrap _ _ _ := ⟨_, _, _, rfl⟩

theorem Exec.Built.frame {action : Exec α} (built : Built action) {machine after : Machine}
    {value : α} (ended : action machine = .ok value after) : SameFrame machine after :=
  built.kept_of_ok sameFrame_stable ended

theorem Exec.step_frame {machine after : Machine} {outcome : Outcome}
    (working : machine.state = .continuing) (ended : step machine = .ok outcome after) :
    ∃ registers memory terminal, after = { machine with
      registers, memory, terminal, tick := machine.tick + 1, state := outcome } := by
  obtain ⟨done, worked, rfl⟩ := (step_eq_ok_iff working).mp ended
  obtain ⟨registers, memory, terminal, rfl⟩ := Built.work.frame worked
  exact ⟨registers, memory, terminal, rfl⟩

theorem Walk.interrupt_is_fault {machine : Machine} {address : Word} {reads : Nat}
    {words : List Word} {interrupt : Interrupt} {after : Machine}
    (walk : Walk machine address reads words (some interrupt) after) :
    ∃ fault, interrupt = .fault fault := by
  generalize stopped : some interrupt = interrupt? at walk
  induction walk with
  | stop => cases stopped
  | @interrupted machine address _ _ failed =>
      cases stopped
      cases status : machine.keyboard.isStatus address with
      | false => simp [Exec.read_of_plain status] at failed
      | true =>
          rw [Exec.read_of_status status] at failed
          cases found : Terminal.readChar machine.terminal with
          | ok char terminal => simp [found] at failed
          | error fault terminal =>
              simp only [found, EStateM.Result.error.injEq] at failed
              exact ⟨fault, failed.1.symm⟩
  | next _ _ _ ih => exact ih stopped

theorem Exec.Built.not_endless {action : Exec α} (built : Built action) :
    ∀ {machine : Machine} (_ : machine.keyboard.Reachable) (after : Machine),
      action machine ≠ .error .endlessString after := by
  induction built with
  | pure | inspect | registers | write | halted | unknownTrap => exact fun _ _ => nofun
  | @bind _ _ action next earlier _ first rest =>
      intro machine reachable after failed
      rw [bind_apply] at failed
      cases done : action machine with
      | error interrupt between =>
          rw [done] at failed
          exact first reachable between (done.trans (by cases failed; rfl))
      | ok value between =>
          rw [done] at failed
          have again : between.keyboard.Reachable := by
            obtain ⟨_, _, _, rfl⟩ := earlier.frame done
            exact reachable
          exact rest value again after failed
  | readChar =>
      intro machine _ after failed
      rw [atTerminal_apply] at failed
      cases found : Terminal.readChar machine.terminal <;> simp [found] at failed
  | print text =>
      intro machine _ after failed
      rw [Exec.print, atTerminal_apply] at failed
      cases taken : Terminal.print text machine.terminal <;> simp [taken] at failed
  | string address =>
      intro machine reachable after failed
      obtain ⟨reads, words, interrupt, last, walk⟩ := Walk.exists_of_reachable reachable address
      rw [walk.readString_eq reachable] at failed
      cases interrupt with
      | none => simp [Walk.result] at failed
      | some interrupt =>
          obtain ⟨fault, rfl⟩ := walk.interrupt_is_fault
          simp [Walk.result] at failed

end Lc3
