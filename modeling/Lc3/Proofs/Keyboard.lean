import Lc3.Proofs.Action

/-!
Reading memory with a keyboard in it. A read of any address but the status register's only looks a
cell up; a read of the status register takes a line of input and rewrites the keyboard's cells
first.
-/

namespace Lc3

namespace Keyboard

/-- The status address is a word, so that reads can reach it. -/
def Reachable (keyboard : Keyboard) : Prop := 0 ≤ keyboard.status ∧ keyboard.status < 65536

/-- Two different words, as every checked configuration has them. -/
structure Proper (keyboard : Keyboard) : Prop where
  reachable : keyboard.Reachable
  dataInRange : 0 ≤ keyboard.data ∧ keyboard.data < 65536
  distinct : keyboard.status ≠ keyboard.data

instance (keyboard : Keyboard) : Decidable keyboard.Reachable :=
  inferInstanceAs (Decidable (_ ∧ _))

theorem standard_proper : standard.Proper := ⟨by decide, by decide, by decide⟩

theorem isStatus_iff {keyboard : Keyboard} (reachable : keyboard.Reachable) (address : Word) :
    keyboard.isStatus address = true ↔ address = wordOf keyboard.status := by
  have status := toNat_wordOf keyboard.status
  rw [Int.emod_eq_of_lt reachable.1 reachable.2] at status
  simp only [isStatus, beq_iff_eq]
  constructor
  · intro same
    rw [same, wordOf_toNat]
  · intro same
    rw [same, status]

theorem isStatus_eq_false_iff {keyboard : Keyboard} (reachable : keyboard.Reachable)
    (address : Word) : keyboard.isStatus address = false ↔ address ≠ wordOf keyboard.status := by
  rw [Bool.eq_false_iff]
  exact not_congr (isStatus_iff reachable address)

theorem Proper.words_ne {keyboard : Keyboard} (proper : keyboard.Proper) :
    wordOf keyboard.data ≠ wordOf keyboard.status := by
  intro same
  have status := toNat_wordOf keyboard.status
  have data := toNat_wordOf keyboard.data
  rw [Int.emod_eq_of_lt proper.reachable.1 proper.reachable.2] at status
  rw [Int.emod_eq_of_lt proper.dataInRange.1 proper.dataInRange.2, same, status] at data
  exact proper.distinct data

/-- The cells after a poll that found a character, or none. -/
def display (keyboard : Keyboard) (memory : Memory) (char : Option Word) : Memory :=
  let code := char.getD 0
  if code = 0 then memory.set (wordOf keyboard.status) 0
  else (memory.set (wordOf keyboard.status) ready).set (wordOf keyboard.data) code

theorem get_display_of_ne (keyboard : Keyboard) (memory : Memory) (char : Option Word)
    {address : Word} (status : address ≠ wordOf keyboard.status)
    (data : address ≠ wordOf keyboard.data) :
    (keyboard.display memory char).get address = memory.get address := by
  unfold display
  simp only []
  split
  · exact Memory.get_set_of_ne _ _ status.symm
  · rw [Memory.get_set_of_ne _ _ data.symm, Memory.get_set_of_ne _ _ status.symm]

/-- All that a poll shows: its outcome at the status address, a character at the data address. -/
theorem Proper.get_display {keyboard : Keyboard} (proper : keyboard.Proper) (memory : Memory)
    (char : Option Word) (address : Word) :
    (keyboard.display memory char).get address =
      if address = wordOf keyboard.status then (if char.getD 0 = 0 then 0 else ready)
      else if address = wordOf keyboard.data ∧ char.getD 0 ≠ 0 then char.getD 0
      else memory.get address := by
  have apart := proper.words_ne
  unfold display
  by_cases nothing : char.getD 0 = 0
  · simp only [nothing, if_true, ne_eq, not_true_eq_false, and_false, if_false, Memory.get_set,
      eq_comm (a := wordOf keyboard.status)]
  · simp only [nothing, if_false, ne_eq, not_false_eq_true, and_true]
    by_cases status : address = wordOf keyboard.status
    · rw [if_pos status, status, Memory.get_set_of_ne _ _ apart, Memory.get_set_self]
    · rw [if_neg status]
      by_cases data : address = wordOf keyboard.data
      · rw [if_pos data, data, Memory.get_set_self]
      · rw [if_neg data, Memory.get_set_of_ne _ _ (Ne.symm data),
          Memory.get_set_of_ne _ _ (Ne.symm status)]

end Keyboard

namespace Exec

theorem poll_apply (machine : Machine) :
    poll machine =
      match Terminal.readChar machine.terminal with
      | .ok char terminal =>
        .ok () { machine with terminal, memory := machine.keyboard.display machine.memory char }
      | .error fault terminal => .error (.fault fault) { machine with terminal } := by
  simp only [poll, bind_apply, atTerminal_apply]
  cases Terminal.readChar machine.terminal with
  | error fault terminal => rfl
  | ok char terminal =>
      simp only [view_apply, Keyboard.display]
      split
      · rfl
      · rfl
      · rename_i code typed
        simp only [Option.getD_some, if_neg (show ¬code = 0 from typed)]
        rfl

theorem read_of_plain {address : Word} {machine : Machine}
    (plain : machine.keyboard.isStatus address = false) :
    read address machine = .ok (machine.memory.get address) machine := by
  simp only [read, bind_apply, view_apply, plain]
  rfl

theorem read_of_status {address : Word} {machine : Machine}
    (status : machine.keyboard.isStatus address = true) :
    read address machine =
      match Terminal.readChar machine.terminal with
      | .ok char terminal =>
        .ok ((machine.keyboard.display machine.memory char).get address)
          { machine with terminal, memory := machine.keyboard.display machine.memory char }
      | .error fault terminal => .error (.fault fault) { machine with terminal } := by
  simp only [read, bind_apply, view_apply, status, if_true, poll_apply]
  cases Terminal.readChar machine.terminal <;> rfl

theorem registers_of_read {address value : Word} {machine after : Machine}
    (found : read address machine = .ok value after) : after.registers = machine.registers := by
  cases status : machine.keyboard.isStatus address with
  | false =>
      rw [read_of_plain status] at found
      cases found
      rfl
  | true =>
      rw [read_of_status status] at found
      cases typed : Terminal.readChar machine.terminal with
      | error fault terminal => simp [typed] at found
      | ok char terminal =>
          simp only [typed] at found
          cases found
          rfl

end Exec

/-- What a read that ends well comes to: the value it gives and the machine after it. -/
inductive Reads (machine : Machine) (address : Word) : Word → Machine → Prop
  | stored (plain : address ≠ wordOf machine.keyboard.status) :
      Reads machine address (machine.memory.get address) machine
  | ready {code : Word} {terminal : Terminal}
      (status : address = wordOf machine.keyboard.status)
      (found : Terminal.readChar machine.terminal = .ok (some code) terminal)
      (typed : code ≠ 0) :
      Reads machine address Keyboard.ready
        { machine with
          terminal
          memory := (machine.memory.set (wordOf machine.keyboard.status) Keyboard.ready).set
            (wordOf machine.keyboard.data) code }
  | idle {char : Option Word} {terminal : Terminal}
      (status : address = wordOf machine.keyboard.status)
      (found : Terminal.readChar machine.terminal = .ok char terminal)
      (nothing : char.getD 0 = 0) :
      Reads machine address 0
        { machine with
          terminal
          memory := machine.memory.set (wordOf machine.keyboard.status) 0 }

namespace Reads

variable {machine after : Machine} {address value : Word}

theorem registers_eq (reads : Reads machine address value after) :
    after.registers = machine.registers := by
  cases reads <;> rfl

theorem keyboard_eq (reads : Reads machine address value after) :
    after.keyboard = machine.keyboard := by
  cases reads <;> rfl

end Reads

theorem read_eq_ok_iff {machine : Machine} (proper : machine.keyboard.Proper)
    {address value : Word} {after : Machine} :
    Exec.read address machine = .ok value after ↔ Reads machine address value after := by
  have place := Keyboard.isStatus_iff proper.reachable address
  constructor
  · intro ended
    by_cases status : address = wordOf machine.keyboard.status
    · rw [Exec.read_of_status (place.mpr status)] at ended
      cases found : Terminal.readChar machine.terminal with
      | error fault terminal => simp [found] at ended
      | ok char terminal =>
          simp only [found, EStateM.Result.ok.injEq] at ended
          obtain ⟨rfl, rfl⟩ := ended
          unfold Keyboard.display
          by_cases nothing : char.getD 0 = 0
          · rw [if_pos nothing, status, Memory.get_set_self]
            exact .idle rfl found nothing
          · cases char with
            | none => exact absurd rfl nothing
            | some code =>
                rw [if_neg nothing, status, Memory.get_set_of_ne _ _ proper.words_ne,
                  Memory.get_set_self]
                exact .ready rfl found nothing
    · have plain := (Keyboard.isStatus_eq_false_iff proper.reachable address).mpr status
      rw [Exec.read_of_plain plain, EStateM.Result.ok.injEq] at ended
      obtain ⟨rfl, rfl⟩ := ended
      exact .stored status
  · intro reads
    cases reads with
    | stored plain =>
        exact Exec.read_of_plain
          ((Keyboard.isStatus_eq_false_iff proper.reachable address).mpr plain)
    | ready status found typed =>
        rw [Exec.read_of_status (place.mpr status), found]
        simp only [Keyboard.display, Option.getD_some, if_neg typed, status,
          Memory.get_set_of_ne _ _ proper.words_ne, Memory.get_set_self]
    | idle status found nothing =>
        rw [Exec.read_of_status (place.mpr status), found]
        simp only [Keyboard.display, if_pos nothing, status, Memory.get_set_self]

end Lc3
