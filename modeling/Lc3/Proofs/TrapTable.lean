import Lc3.Proofs.StringWalk

/-!
The trap table: what the service of each vector takes from the console, prints and leaves behind.
-/

namespace Lc3

def Machine.assign (machine : Machine) (name : Register) (value : Word) : Machine :=
  { machine with registers := machine.registers.set name value }

theorem Service.ofVector?_eq_none_iff (vector : Nat) :
    ofVector? vector = none ↔ vector < 0x20 ∨ 0x25 < vector := by
  simp only [ofVector?, all, List.find?_eq_none, beq_iff_eq]
  constructor
  · intro unknown
    have apart (service : Service) : service.vector ≠ vector := by
      have member : service ∈ all := by cases service <;> decide
      have other := unknown service member
      omega
    have getc := apart .getc
    have out := apart .out
    have puts := apart .puts
    have input := apart .input
    have putsp := apart .putsp
    have halt := apart .halt
    simp only [Service.vector] at getc out puts input putsp halt
    omega
  · intro outside service _ same
    have range : 0x20 ≤ service.vector ∧ service.vector ≤ 0x25 := by cases service <;> decide
    omega

theorem Service.vector_of_ofVector? {vector : Nat} {service : Service}
    (found : ofVector? vector = some service) : service.vector = vector := by
  have number := List.find?_some found
  rw [beq_iff_eq] at number
  omega

/-- What the trap with a number does. -/
def Serves (vector : Nat) (machine : Machine) (outcome : Outcome) (after : Machine) : Prop :=
  match vector with
  | 0x20 =>
    ∃ char terminal, Terminal.readChar machine.terminal = .ok char terminal ∧
      outcome = .continuing ∧ after = { machine with terminal }.assign 0 (char.getD 0)
  | 0x21 =>
    ∃ terminal, Terminal.print (Text.ofChars [charOf (machine.registers.get 0), '\n'])
        machine.terminal = .ok () terminal ∧
      outcome = .continuing ∧ after = { machine with terminal }
  | 0x22 =>
    ∃ reads words walked terminal,
      Walk machine (machine.registers.get 0) reads words none walked ∧
      Terminal.print (textOfWords words) walked.terminal = .ok () terminal ∧
      outcome = .continuing ∧ after = { walked with terminal }
  | 0x23 =>
    ∃ char typed, Terminal.readChar machine.terminal = .ok char typed ∧
      outcome = .continuing ∧
      if char.getD 0 = 0 then after = { machine with terminal := typed }.assign 0 0
      else ∃ terminal, Terminal.print (Text.ofChars [charOf (char.getD 0), '\n']) typed =
          .ok () terminal ∧
        after = { machine with terminal }.assign 0 (char.getD 0)
  | 0x24 =>
    ∃ reads words walked terminal,
      Walk machine (machine.registers.get 0) reads words none walked ∧
      Terminal.print (textOfPackedWords words) walked.terminal = .ok () terminal ∧
      outcome = .continuing ∧ after = { walked with terminal }
  | 0x25 =>
    ∃ terminal, Terminal.print (machine.haltMessage ++ Text.ofString "\n") machine.terminal =
        .ok () terminal ∧
      outcome = .halted ∧
      after = { machine with terminal := terminal.note (.halted (machine.tick + 1)) }
  | _ =>
    outcome = .faulted ∧
      after = { machine with
        terminal := machine.terminal.note (.unknownTrap vector machine.registers.pc) }

theorem Exec.atTerminal_eq_ok_iff {action : EStateM Fault Terminal α} {machine after : Machine}
    {value : α} :
    Exec.atTerminal action machine = .ok value after ↔
      ∃ terminal, action machine.terminal = .ok value terminal ∧
        after = { machine with terminal } := by
  rw [atTerminal_apply]
  cases action machine.terminal with
  | error fault terminal => simp
  | ok result terminal =>
      constructor
      · rintro ⟨⟩
        exact ⟨terminal, rfl, rfl⟩
      · rintro ⟨_, ⟨⟩, rfl⟩
        rfl

theorem ok_eq_ok_iff {result outcome : Outcome} {machine after : Machine} :
    (EStateM.Result.ok result machine : EStateM.Result Interrupt Machine Outcome) =
      .ok outcome after ↔ outcome = result ∧ after = machine := by
  constructor
  · rintro ⟨⟩
    exact ⟨rfl, rfl⟩
  · rintro ⟨rfl, rfl⟩
    rfl

section
variable {machine after : Machine} {outcome : Outcome}

theorem readCharacter_eq_ok_iff {code : Word} :
    Exec.readCharacter machine = .ok code after ↔
      ∃ char terminal, Terminal.readChar machine.terminal = .ok char terminal ∧
        code = char.getD 0 ∧ after = { machine with terminal }.assign 0 (char.getD 0) := by
  simp only [Exec.readCharacter, Exec.bind_eq_ok_iff, Exec.atTerminal_eq_ok_iff]
  constructor
  · rintro ⟨char, _, ⟨terminal, found, rfl⟩, ⟨⟩, _, ⟨⟩, ⟨⟩⟩
    exact ⟨char, terminal, found, rfl, rfl⟩
  · rintro ⟨char, terminal, found, rfl, rfl⟩
    exact ⟨char, _, ⟨terminal, found, rfl⟩, (), _, rfl, rfl⟩

theorem serve_getc :
    Exec.serve .getc machine = .ok outcome after ↔
      ∃ char terminal, Terminal.readChar machine.terminal = .ok char terminal ∧
        outcome = .continuing ∧ after = { machine with terminal }.assign 0 (char.getD 0) := by
  change ((Exec.readCharacter >>= fun _ => pure ()) >>= fun _ => pure Outcome.continuing) machine =
    .ok outcome after ↔ _
  simp only [Exec.bind_eq_ok_iff, readCharacter_eq_ok_iff]
  constructor
  · rintro ⟨_, _, ⟨_, _, ⟨char, terminal, found, rfl, rfl⟩, ⟨⟩⟩, ⟨⟩⟩
    exact ⟨char, terminal, found, rfl, rfl⟩
  · rintro ⟨char, terminal, found, rfl, rfl⟩
    exact ⟨(), _, ⟨_, _, ⟨char, terminal, found, rfl, rfl⟩, rfl⟩, rfl⟩

theorem serve_out :
    Exec.serve .out machine = .ok outcome after ↔
      ∃ terminal, Terminal.print (Text.ofChars [charOf (machine.registers.get 0), '\n'])
          machine.terminal = .ok () terminal ∧
        outcome = .continuing ∧ after = { machine with terminal } := by
  simp only [Exec.serve, Exec.bind_eq_ok_iff, Exec.register, Exec.printCharacter, Exec.print,
    Exec.atTerminal_eq_ok_iff]
  constructor
  · rintro ⟨_, _, ⟨⟩, _, _, ⟨terminal, taken, rfl⟩, ⟨⟩⟩
    exact ⟨terminal, taken, rfl, rfl⟩
  · rintro ⟨terminal, taken, rfl, rfl⟩
    exact ⟨_, _, rfl, (), _, ⟨terminal, taken, rfl⟩, rfl⟩

theorem serve_input :
    Exec.serve .input machine = .ok outcome after ↔
      ∃ char typed, Terminal.readChar machine.terminal = .ok char typed ∧
        outcome = .continuing ∧
        if char.getD 0 = 0 then after = { machine with terminal := typed }.assign 0 0
        else ∃ terminal, Terminal.print (Text.ofChars [charOf (char.getD 0), '\n']) typed =
            .ok () terminal ∧
          after = { machine with terminal }.assign 0 (char.getD 0) := by
  simp only [Exec.serve, Exec.bind_eq_ok_iff, readCharacter_eq_ok_iff]
  constructor
  · rintro ⟨_, _, ⟨char, typed, found, rfl, rfl⟩, ended⟩
    by_cases nothing : char.getD 0 = 0
    · rw [if_neg (not_not_intro nothing)] at ended
      obtain ⟨rfl, rfl⟩ := ok_eq_ok_iff.mp ended
      exact ⟨char, typed, found, rfl, by rw [if_pos nothing, nothing]⟩
    · rw [if_pos nothing] at ended
      simp only [Exec.bind_eq_ok_iff, Exec.printCharacter, Exec.print,
        Exec.atTerminal_eq_ok_iff] at ended
      obtain ⟨_, _, ⟨terminal, taken, rfl⟩, ⟨⟩⟩ := ended
      exact ⟨char, typed, found, rfl, by rw [if_neg nothing]; exact ⟨terminal, taken, rfl⟩⟩
  · rintro ⟨char, typed, found, rfl, echoed⟩
    refine ⟨_, _, ⟨char, typed, found, rfl, rfl⟩, ?_⟩
    by_cases nothing : char.getD 0 = 0
    · rw [if_pos nothing] at echoed
      rw [if_neg (not_not_intro nothing), echoed, nothing]
      rfl
    · rw [if_neg nothing] at echoed
      obtain ⟨terminal, taken, rfl⟩ := echoed
      rw [if_pos nothing]
      simp only [Exec.bind_eq_ok_iff, Exec.printCharacter, Exec.print, Exec.atTerminal_eq_ok_iff]
      exact ⟨(), _, ⟨terminal, taken, rfl⟩, rfl⟩

theorem serve_halt :
    Exec.serve .halt machine = .ok outcome after ↔
      ∃ terminal, Terminal.print (machine.haltMessage ++ Text.ofString "\n") machine.terminal =
          .ok () terminal ∧
        outcome = .halted ∧
        after = { machine with terminal := terminal.note (.halted (machine.tick + 1)) } := by
  simp only [Exec.serve, Exec.bind_eq_ok_iff, Exec.print, Exec.atTerminal_eq_ok_iff]
  constructor
  · rintro ⟨_, _, ⟨⟩, _, _, ⟨terminal, taken, rfl⟩, _, _, ⟨⟩, _, _, ⟨⟩, ⟨⟩⟩
    exact ⟨terminal, taken, rfl, rfl⟩
  · rintro ⟨terminal, taken, rfl, rfl⟩
    exact ⟨_, _, rfl, (), _, ⟨terminal, taken, rfl⟩, _, _, rfl, (), _, rfl, rfl⟩

/-- The two services that print a string differ in how they make characters of its words. -/
theorem print_string_eq_ok_iff (reachable : machine.keyboard.Reachable)
    (textOf : List Word → Text) :
    (do Exec.print (textOf (← Exec.readString (← Exec.register 0))); return .continuing :
        Exec Outcome) machine = .ok outcome after ↔
      ∃ reads words walked terminal,
        Walk machine (machine.registers.get 0) reads words none walked ∧
        Terminal.print (textOf words) walked.terminal = .ok () terminal ∧
        outcome = .continuing ∧ after = { walked with terminal } := by
  simp only [Exec.bind_eq_ok_iff, Exec.register, Exec.print, Exec.atTerminal_eq_ok_iff]
  constructor
  · rintro ⟨_, _, ⟨⟩, words, walked, ended, _, _, ⟨terminal, taken, rfl⟩, ⟨⟩⟩
    obtain ⟨reads, walk⟩ := Walk.of_readString reachable ended
    exact ⟨reads, words, walked, terminal, walk, taken, rfl, rfl⟩
  · rintro ⟨reads, words, walked, terminal, walk, taken, rfl, rfl⟩
    exact ⟨_, _, rfl, words, walked, walk.readString_eq reachable, (), _, ⟨terminal, taken, rfl⟩,
      rfl⟩

theorem trap_eq_ok_iff (reachable : machine.keyboard.Reachable) (vector : Nat) :
    Exec.trap vector machine = .ok outcome after ↔ Serves vector machine outcome after := by
  unfold Serves
  split
  · exact serve_getc
  · exact serve_out
  · exact print_string_eq_ok_iff reachable textOfWords
  · exact serve_input
  · exact print_string_eq_ok_iff reachable textOfPackedWords
  · exact serve_halt
  · rename_i getc out puts input putsp halt
    have apart : vector ≠ 0x20 ∧ vector ≠ 0x21 ∧ vector ≠ 0x22 ∧ vector ≠ 0x23 ∧ vector ≠ 0x24 ∧
        vector ≠ 0x25 := ⟨getc, out, puts, input, putsp, halt⟩
    have unknown := (Service.ofVector?_eq_none_iff vector).mpr (by omega)
    simp only [Exec.trap, unknown]
    exact ok_eq_ok_iff

end

end Lc3
