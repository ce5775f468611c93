import Lc3.Proofs.InstructionTable

/-!
What a step comes to depends on the instruction word alone: only traps end a program.
-/

namespace Lc3

def trapOutcome (vector : Nat) : Outcome :=
  if vector = 0x25 then .halted
  else if 0x20 ≤ vector ∧ vector < 0x25 then .continuing
  else .faulted

def Instruction.outcome : Instruction → Outcome
  | .trap vector => trapOutcome vector.toNat
  | _ => .continuing

def wordOutcome (word : Word) : Outcome :=
  if bitsAt word 12 4 = 15 then trapOutcome (bitsAt word 0 8) else .continuing

theorem outcome_decode (word : Word) : (Instruction.decode word).outcome = wordOutcome word := by
  have vector : (Field.vector word).toNat = bitsAt word 0 8 := (bitsAt_eq_toNat word 0 8).symm
  have bound : bitsAt word 12 4 < 16 := Nat.mod_lt _ (by decide)
  unfold Instruction.decode Opcode.ofWord wordOutcome
  rw [opcode_eq_bitsAt, ← vector]
  generalize bitsAt word 12 4 = opcode at bound
  match opcode, bound with
  | 0, _ | 1, _ | 2, _ | 3, _ | 5, _ | 6, _ | 7, _ | 8, _ | 9, _ | 10, _ | 11, _ | 12, _ | 13, _
  | 14, _ | 15, _ => rfl
  | 4, _ =>
      simp only []
      split <;> rfl
  | opcode + 16, beyond => omega

/-- An action that can give nothing but one value. -/
def Yields (value : α) (action : Exec α) : Prop :=
  ∀ machine result after, action machine = .ok result after → result = value

namespace Yields

theorem pure (value : α) : Yields value (pure value) := by
  intro machine result after ended
  cases ended
  rfl

theorem bind {value : β} {action : Exec α} {next : α → Exec β}
    (rest : ∀ between, Yields value (next between)) : Yields value (action >>= next) := by
  intro machine result after ended
  obtain ⟨between, reached, _, onward⟩ := Exec.bind_eq_ok_iff.mp ended
  exact rest between reached result after onward

theorem serve (service : Service) : Yields (trapOutcome service.vector) (Exec.serve service) := by
  cases service with
  | getc => exact .bind fun _ => .pure _
  | out => exact .bind fun _ => .bind fun _ => .pure _
  | puts => exact .bind fun _ => .bind fun _ => .bind fun _ => .pure _
  | input =>
      refine .bind fun code => ?_
      split
      · exact .bind fun _ => .pure _
      · exact .pure _
  | putsp => exact .bind fun _ => .bind fun _ => .bind fun _ => .pure _
  | halt =>
      exact .bind fun _ => .bind fun _ => .bind fun _ => .bind fun _ => .pure _

theorem trap (vector : Nat) : Yields (trapOutcome vector) (Exec.trap vector) := by
  unfold Exec.trap
  cases found : Service.ofVector? vector with
  | some service =>
      rw [← Service.vector_of_ofVector? found]
      exact serve service
  | none =>
      have outside := (Service.ofVector?_eq_none_iff vector).mp found
      have faulted : trapOutcome vector = .faulted := by
        unfold trapOutcome
        rw [if_neg (by omega), if_neg (by omega)]
      rw [faulted]
      exact .bind fun _ => .bind fun _ => .pure _

theorem execute (instruction : Instruction) :
    Yields instruction.outcome (Exec.execute instruction) := by
  cases instruction with
  | branch mask offset =>
      refine .bind fun condition => ?_
      split
      · exact .bind fun _ => .bind fun _ => .pure _
      · exact .pure _
  | add | and => exact .bind fun _ => .bind fun _ => .bind fun _ => .pure _
  | not | loadAddress | jump => exact .bind fun _ => .bind fun _ => .pure _
  | load | loadBase | store | storeBase =>
      exact .bind fun _ => .bind fun _ => .bind fun _ => .pure _
  | loadIndirect | storeIndirect | call | callRegister =>
      exact .bind fun _ => .bind fun _ => .bind fun _ => .bind fun _ => .pure _
  | unused => exact .pure _
  | trap vector => exact trap vector.toNat

end Yields

/-- A step fetches a word and comes to what that word alone decides. -/
theorem step_outcome {machine after : Machine} {outcome : Outcome}
    (working : machine.state = .continuing) (step : Exec.step machine = .ok outcome after) :
    ∃ word fetched, Exec.read machine.registers.pc machine = .ok word fetched ∧
      outcome = wordOutcome word := by
  obtain ⟨done, worked, _⟩ := (Exec.step_eq_ok_iff working).mp step
  rw [Exec.work_apply] at worked
  cases found : Exec.read machine.registers.pc machine with
  | error interrupt fetched => simp [found] at worked
  | ok word fetched =>
      rw [found] at worked
      have outcome := Yields.execute _ _ _ _ worked
      exact ⟨word, fetched, rfl, outcome.trans (outcome_decode word)⟩

end Lc3
