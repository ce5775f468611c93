import Lc3.Proofs.Effects
import Lc3.Proofs.Progress

/-!
Which instruction makes which call of the console. Main statement: the calls of a run are those
that its instructions demand, one instruction after the other, and its reads take the lines of a
script one after the other.
-/

namespace Lc3

/-- What a console can be asked for. -/
inductive Demand
  | line
  | write (text : Text)
  deriving DecidableEq

namespace ConsoleCall

def demand : ConsoleCall → Demand
  | .read _ => .line
  | .write text _ => .write text

def reading? : ConsoleCall → Option Reading
  | .read reading => some reading
  | .write _ _ => none

end ConsoleCall

namespace Console

def ask (console : Console) : Demand → Console
  | .line => console.readLine.2
  | .write text => (console.write text).2

/-- Readings that a script gives, in the order of its entries and with empty lines after them, and
the source that is left. -/
def ReadsScript (entries readings : List Reading) (source : Source) : Prop :=
  readings = entries.take readings.length ++
      List.replicate (readings.length - entries.length) (.line "") ∧
    source = .script (entries.drop readings.length)

theorem ReadsScript.cons {entries readings : List Reading} {source : Source}
    (rest : ReadsScript entries.tail readings source) :
    ReadsScript entries (entries.headD (.line "") :: readings) source := by
  obtain ⟨same, left⟩ := rest
  cases entries with
  | nil =>
      refine ⟨?_, by simpa using left⟩
      rw [List.length_cons, List.take_nil, List.nil_append, List.length_nil, Nat.sub_zero,
        List.replicate_succ]
      exact congrArg _ (by simpa using same)
  | cons entry entries =>
      refine ⟨?_, left⟩
      rw [List.length_cons, List.length_cons, Nat.add_sub_add_right]
      exact congrArg (entry :: ·) same

/-- A console that is asked for one thing after the other is called once for each of them. -/
theorem calls_foldl_ask (console : Console) (demands : List Demand) :
    ∃ made : List ConsoleCall, (demands.foldl ask console).calls = made.reverse ++ console.calls ∧
      made.map (·.demand) = demands ∧
      ∀ entries, console.source = .script entries →
        ReadsScript entries (made.filterMap (·.reading?)) (demands.foldl ask console).source := by
  induction demands generalizing console with
  | nil => exact ⟨[], rfl, rfl, fun _ script => ⟨by simp, script⟩⟩
  | cons demand demands ih =>
      obtain ⟨made, calls, same, scripted⟩ := ih (console.ask demand)
      cases demand with
      | line =>
          refine ⟨.read console.readLine.1 :: made, ?_, congrArg (Demand.line :: ·) same, ?_⟩
          · rw [List.foldl_cons, calls, List.reverse_cons, List.append_assoc]
            rfl
          · intro entries script
            have read := Source.readLine_script entries
            rw [← script] at read
            have taken : console.readLine.1 = entries.headD (.line "") := congrArg Prod.fst read
            have left : (console.ask .line).source = .script entries.tail := congrArg Prod.snd read
            rw [taken]
            exact (scripted _ left).cons
      | write text =>
          refine ⟨.write text (console.write text).1 :: made, ?_,
            congrArg (Demand.write text :: ·) same, scripted⟩
          rw [List.foldl_cons, calls, List.reverse_cons, List.append_assoc]
          rfl

end Console

namespace Effect

/-- What an effect asks of the console. A look does so at the status register alone. -/
def demands (keyboard : Keyboard) : Effect → List Demand
  | .look address => if address = wordOf keyboard.status then [.line] else []
  | .take => [.line]
  | .print text => [.write text]

end Effect

theorem Terminal.console_readChar (terminal : Terminal) :
    match readChar terminal with
    | .ok _ after | .error _ after => after.console = terminal.console.ask .line := by
  have reads := terminal.readsChar
  generalize readChar terminal = result at reads ⊢
  cases reads with
  | line taken | absorbed taken | passedOn taken => exact (congrArg Prod.snd taken).symm

theorem Terminal.console_print (text : Text) (terminal : Terminal) :
    match print text terminal with
    | .ok _ after | .error _ after => after.console = terminal.console.ask (.write text) := by
  have prints := terminal.prints text
  generalize print text terminal = result at prints ⊢
  cases prints with
  | taken put | absorbed put | passedOn put => exact (congrArg Prod.snd put).symm

/-- From one machine to the other the console was asked for what the effects demand, in their
order, and for nothing else. -/
structure Asked (effects : List Effect) (machine after : Machine) : Prop where
  keyboard : after.keyboard = machine.keyboard
  console : after.terminal.console =
    (effects.flatMap (·.demands machine.keyboard)).foldl Console.ask machine.terminal.console

namespace Asked

theorem none (machine : Machine) : Asked [] machine machine := ⟨rfl, rfl⟩

theorem append {effects later : List Effect} {machine between after : Machine}
    (first : Asked effects machine between) (second : Asked later between after) :
    Asked (effects ++ later) machine after where
  keyboard := second.keyboard.trans first.keyboard
  console := by
    rw [second.console, first.console, first.keyboard, List.flatMap_append, List.foldl_append]

theorem of_console {effects : List Effect} {machine after : Machine}
    (keyboard : after.keyboard = machine.keyboard) {demand : Demand}
    (demanded : effects.flatMap (·.demands machine.keyboard) = [demand])
    (asked : after.terminal.console = machine.terminal.console.ask demand) :
    Asked effects machine after := ⟨keyboard, by rw [demanded, asked]; rfl⟩

theorem take (machine : Machine) :
    Asked [.take] machine (Exec.leaves (Exec.atTerminal Terminal.readChar) machine) := by
  have console := machine.terminal.console_readChar
  rw [Exec.leaves, Exec.atTerminal_apply]
  cases found : Terminal.readChar machine.terminal with
  | ok char terminal =>
      rw [found] at console
      exact of_console rfl rfl console
  | error fault terminal =>
      rw [found] at console
      exact of_console rfl rfl console

theorem print (text : Text) (machine : Machine) :
    Asked [.print text] machine (Exec.leaves (Exec.print text) machine) := by
  have console := machine.terminal.console_print text
  rw [Exec.leaves, Exec.print, Exec.atTerminal_apply]
  cases taken : Terminal.print text machine.terminal with
  | ok _ terminal =>
      rw [taken] at console
      exact of_console rfl rfl console
  | error fault terminal =>
      rw [taken] at console
      exact of_console rfl rfl console

theorem look {machine : Machine} (reachable : machine.keyboard.Reachable) (address : Word) :
    Asked [.look address] machine (Exec.leaves (Exec.read address) machine) := by
  by_cases status : address = wordOf machine.keyboard.status
  · have place := (Keyboard.isStatus_iff reachable address).mpr status
    have demanded : [Effect.look address].flatMap (·.demands machine.keyboard) = [.line] := by
      simp [Effect.demands, status]
    have console := machine.terminal.console_readChar
    rw [Exec.leaves, Exec.read_of_status place]
    cases found : Terminal.readChar machine.terminal with
    | ok char terminal =>
        rw [found] at console
        exact of_console rfl demanded console
    | error fault terminal =>
        rw [found] at console
        exact of_console rfl demanded console
  · have plain := (Keyboard.isStatus_eq_false_iff reachable address).mpr status
    rw [Exec.leaves_of_ok (Exec.read_of_plain plain)]
    exact ⟨rfl, by simp [Effect.demands, status]⟩

theorem walk {machine after : Machine} {address : Word} {reads : Nat} {words : List Word}
    {interrupt : Option Interrupt} (reachable : machine.keyboard.Reachable)
    (walk : Walk machine address reads words interrupt after) :
    Asked (looksFrom address reads) machine after := by
  induction walk with
  | @stop _ address _ ended =>
      rw [looksFrom_one, ← Exec.leaves_of_ok ended]
      exact look reachable address
  | @interrupted _ address _ _ failed =>
      rw [looksFrom_one, ← Exec.leaves_of_error failed]
      exact look reachable address
  | @next _ address _ _ _ _ _ _ found _ _ ih =>
      have looked := look reachable address
      rw [Exec.leaves_of_ok found] at looked
      rw [looksFrom_succ]
      exact looked.append (ih (looked.keyboard ▸ reachable))

end Asked

/-- An action asks the console for what its effects demand, up to where it is interrupted. -/
theorem Traced.asked {action : Exec α} {machine : Machine} {effects : List Effect}
    (traced : Traced action machine effects) (reachable : machine.keyboard.Reachable) :
    Asked effects machine (Exec.leaves action machine) := by
  induction traced with
  | pure | inspect | registers | write | note => exact ⟨rfl, rfl⟩
  | bind _ done _ first rest =>
      have before := first reachable
      rw [Exec.leaves_of_ok done] at before
      rw [Exec.leaves_bind_of_ok done]
      exact before.append (rest (before.keyboard ▸ reachable))
  | stopped _ failed first =>
      have before := first reachable
      rw [Exec.leaves_of_error failed] at before
      rw [Exec.leaves_bind_of_error failed]
      exact before
  | look address machine => exact .look reachable address
  | take machine => exact .take machine
  | print text machine => exact .print text machine
  | @walk _ _ _ _ interrupt _ walk =>
      have asked := Asked.walk reachable walk
      have read := walk.readString_eq reachable
      cases interrupt with
      | none => exact Exec.leaves_of_ok read ▸ asked
      | some interrupt => exact Exec.leaves_of_error read ▸ asked

theorem StepEffects.asked {machine : Machine} {effects : List Effect}
    (stepped : StepEffects machine effects) (reachable : machine.keyboard.Reachable) :
    Asked effects machine (Exec.leaves Exec.step machine) := by
  by_cases working : machine.state = .continuing
  · have asked := (Traced.work reachable working stepped).asked reachable
    have step := Exec.step_of_continuing working
    cases worked : Exec.work machine with
    | ok outcome done =>
        rw [worked] at step
        rw [Exec.leaves_of_ok worked] at asked
        rw [Exec.leaves_of_ok step]
        exact ⟨asked.keyboard, asked.console⟩
    | error interrupt done =>
        rw [worked] at step
        rw [Exec.leaves_of_error worked] at asked
        rw [Exec.leaves_of_error step]
        exact asked
  · cases stepped with
    | ended ended =>
        rw [Exec.leaves_of_ok (Exec.step_of_ended ended)]
        exact .none machine
    | interrupted continuing => exact absurd continuing working
    | fetched continuing => exact absurd continuing working

/-- The demands of a step: those of its effects. -/
def StepDemands (machine : Machine) (demands : List Demand) : Prop :=
  ∃ effects, StepEffects machine effects ∧
    demands = effects.flatMap (·.demands machine.keyboard)

/-- The console was called as the instructions of so many steps demand, in the order in which they
were executed. -/
def CalledInOrder (machine : Machine) (count : Nat) (console : Console) : Prop :=
  ∃ (own : Nat → List Demand) (made : List ConsoleCall),
    (∀ index before, index < count → Steps machine index before → StepDemands before (own index)) ∧
    console.calls = made.reverse ++ machine.calls ∧
    made.map (·.demand) = (List.range count).flatMap own ∧
    ∀ entries, machine.terminal.console.source = .script entries →
      Console.ReadsScript entries (made.filterMap (·.reading?)) console.source

theorem Steps.demands {machine last : Machine} {count : Nat} (steps : Steps machine count last)
    (reachable : machine.keyboard.Reachable) :
    ∃ own : Nat → List Demand,
      (∀ index before, index < count → Steps machine index before →
        StepDemands before (own index)) ∧
      last.terminal.console =
        ((List.range count).flatMap own).foldl Console.ask machine.terminal.console := by
  induction steps with
  | none => exact ⟨fun _ => [], fun _ _ impossible => by omega, rfl⟩
  | @more machine outcome next count last step _ ih =>
      obtain ⟨effects, stepped⟩ := StepEffects.exists_effects reachable
      have asked := stepped.asked reachable
      rw [Exec.leaves_of_ok step] at asked
      obtain ⟨own, owned, rest⟩ := ih (asked.keyboard ▸ reachable)
      refine ⟨fun index => index.casesOn (effects.flatMap (·.demands machine.keyboard)) own, ?_, ?_⟩
      · intro index before less earlier
        cases earlier with
        | none => exact ⟨effects, stepped, rfl⟩
        | more step' earlier =>
            rw [step, EStateM.Result.ok.injEq] at step'
            obtain ⟨rfl, rfl⟩ := step'
            exact owned _ before (by omega) earlier
      · rw [rest, asked.console, List.range_succ_eq_map, List.flatMap_cons, List.foldl_append,
          List.flatMap_map]
        rfl

theorem Steps.calledInOrder {machine last : Machine} {count : Nat}
    (steps : Steps machine count last) (reachable : machine.keyboard.Reachable) :
    CalledInOrder machine count last.terminal.console := by
  obtain ⟨own, owned, console⟩ := steps.demands reachable
  obtain ⟨made, calls, same, scripted⟩ :=
    machine.terminal.console.calls_foldl_ask ((List.range count).flatMap own)
  rw [console]
  exact ⟨own, made, owned, calls, same, scripted⟩

/-- Every call belongs to one instruction, and calls come in the order of execution: nothing that
is read or written is lost, doubled or moved. -/
theorem calls_follow_instructions {machine : Machine} (reachable : machine.keyboard.Reachable) :
    (∀ count last, Steps machine count last →
      CalledInOrder machine count last.terminal.console) ∧
    (∀ outcome after, Exec.run machine = .ok (some outcome) after →
      ∃ count last, FirstStop machine count last ∧
        CalledInOrder machine count after.terminal.console) ∧
    (machine.terminal.console.Forgiving → ∀ count, ∃ last, Steps machine count last) := by
  refine ⟨fun count last steps => steps.calledInOrder reachable, ?_,
    Steps.exists_of_forgiving reachable⟩
  intro outcome after ran
  obtain ⟨count, last, first, _, rfl⟩ := run_eq_some_iff.mp ran
  refine ⟨count, last, first, ?_⟩
  rw [Machine.leftAfter_eq]
  exact first.reached.calledInOrder reachable

/-- A machine that looks at its keyboard through a pointer and halts. -/
def Machine.polling : Machine :=
  .load ⟨0, [0xA001, 0xF025, 0x0003]⟩ ⟨3, 4⟩ none (Text.ofString "bye")
    (.ofSourceSink (.script [.line "a", .line "b"]) .full)

theorem polling_calls_follow_instructions :
    Machine.polling.keyboard.Reachable ∧
    ∃ last, Steps Machine.polling 2 last ∧
      last.calls = [.write (Text.ofString "bye\n") none, .read (.line "a")] ∧
      CalledInOrder Machine.polling 2 last.terminal.console := by
  have reachable : Machine.polling.keyboard.Reachable := by decide
  obtain ⟨between, last, polled, halted, calls⟩ : ∃ between last,
      Exec.step Machine.polling = .ok .continuing between ∧
      Exec.step between = .ok .halted last ∧
      last.calls = [.write (Text.ofString "bye\n") none, .read (.line "a")] :=
    ⟨_, _, rfl, rfl, rfl⟩
  have steps : Steps Machine.polling 2 last := .more polled (.more halted .none)
  exact ⟨reachable, last, steps, calls, (calls_follow_instructions reachable).1 2 last steps⟩

end Lc3
