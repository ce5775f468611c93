import Lc3.Proofs.Calls
import Lc3.Proofs.TrapTable

/-!
The instruction table over integers. Every field of a word is a number, offsets and constants are
signed, and sums are taken modulo 65536 at the end. Main statement: a step is a row of the table.
-/

namespace Lc3

/-- The number that `width` bits of a word form, the lowest of them bit `low`. -/
def bitsAt (word : Word) (low width : Nat) : Nat := word.toNat / twoTo low % twoTo width

/-- The number that the lowest `width` bits of a word denote by two's complement. -/
def signedBits (word : Word) (width : Nat) : Int :=
  if bitsAt word 0 width < twoTo (width - 1) then bitsAt word 0 width
  else bitsAt word 0 width - twoTo width

def registerAt (word : Word) (low : Nat) : Register := BitVec.ofNat 3 (bitsAt word low 3)

def signOf (word : Word) : Condition :=
  if word.toInt < 0 then .negative else if word.toInt = 0 then .zero else .positive

def names (word : Word) : Condition → Prop
  | .negative => bitsAt word 11 1 = 1
  | .zero => bitsAt word 10 1 = 1
  | .positive => bitsAt word 9 1 = 1

instance (word : Word) (flag : Condition) : Decidable (names word flag) := by
  cases flag <;> exact inferInstanceAs (Decidable (_ = _))

namespace Machine

def number (machine : Machine) (name : Register) : Int := (machine.registers.get name).toNat

def ahead (machine : Machine) (offset : Int) : Word :=
  wordOf (machine.registers.pc.toNat + offset)

def beyond (machine : Machine) (base : Register) (offset : Int) : Word :=
  wordOf (machine.number base + offset)

/-- The second number of a sum or conjunction: a signed constant or what a register holds. -/
def second (machine : Machine) (word : Word) : Int :=
  if bitsAt word 5 1 = 1 then signedBits word 5 else machine.number (registerAt word 0)

def goTo (machine : Machine) (target : Word) : Machine :=
  { machine with registers := { machine.registers with pc := target } }

def receive (machine : Machine) (name : Register) (value : Word) : Machine :=
  { machine with
    registers := { machine.registers.set name value with condition := signOf value } }

def store (machine : Machine) (address value : Word) : Machine :=
  { machine with memory := machine.memory.set address value }

end Machine

/-- The row of the table that a word selects: what it does to a machine whose program counter
stands behind it already. -/
def Row (word : Word) (machine : Machine) (outcome : Outcome) (after : Machine) : Prop :=
  match bitsAt word 12 4 with
  | 0 => outcome = .continuing ∧
      after = if names word machine.registers.condition
        then machine.goTo (machine.ahead (signedBits word 9)) else machine
  | 1 => outcome = .continuing ∧
      after = machine.receive (registerAt word 9)
        (wordOf (machine.number (registerAt word 6) + machine.second word))
  | 2 => ∃ value read, Reads machine (machine.ahead (signedBits word 9)) value read ∧
      outcome = .continuing ∧ after = read.receive (registerAt word 9) value
  | 3 => outcome = .continuing ∧
      after = machine.store (machine.ahead (signedBits word 9))
        (machine.registers.get (registerAt word 9))
  | 4 => outcome = .continuing ∧
      after = (machine.assign 7 machine.registers.pc).goTo
        (if bitsAt word 11 1 = 1 then machine.ahead (signedBits word 11)
        else if registerAt word 6 = 7 then machine.registers.pc
        else machine.registers.get (registerAt word 6))
  | 5 => outcome = .continuing ∧
      after = machine.receive (registerAt word 9)
        (machine.registers.get (registerAt word 6) &&& wordOf (machine.second word))
  | 6 => ∃ value read,
      Reads machine (machine.beyond (registerAt word 6) (signedBits word 6)) value read ∧
      outcome = .continuing ∧ after = read.receive (registerAt word 9) value
  | 7 => outcome = .continuing ∧
      after = machine.store (machine.beyond (registerAt word 6) (signedBits word 6))
        (machine.registers.get (registerAt word 9))
  | 8 => outcome = .continuing ∧ after = machine
  | 9 => outcome = .continuing ∧
      after = machine.receive (registerAt word 9)
        (wordOf (65535 - machine.number (registerAt word 6)))
  | 10 => ∃ pointer first value read,
      Reads machine (machine.ahead (signedBits word 9)) pointer first ∧
      Reads first pointer value read ∧
      outcome = .continuing ∧ after = read.receive (registerAt word 9) value
  | 11 => ∃ pointer read, Reads machine (machine.ahead (signedBits word 9)) pointer read ∧
      outcome = .continuing ∧
      after = read.store pointer (machine.registers.get (registerAt word 9))
  | 12 => outcome = .continuing ∧
      after = machine.goTo (machine.registers.get (registerAt word 6))
  | 13 => outcome = .continuing ∧ after = machine
  | 14 => outcome = .continuing ∧
      after = machine.receive (registerAt word 9) (machine.ahead (signedBits word 9))
  | 15 => Serves (bitsAt word 0 8) machine outcome after
  | _ => False

/-- One step by the table: a word is fetched, the program counter moves behind it, its row is
carried out, and the step is counted. -/
def StepsByTable (machine : Machine) (outcome : Outcome) (after : Machine) : Prop :=
  ∃ word fetched done, Reads machine machine.registers.pc word fetched ∧
    Row word (fetched.goTo (machine.ahead 1)) outcome done ∧
    after = { done with tick := machine.tick + 1, state := outcome }

/-! The fields that the decoder takes are these numbers. -/

theorem bitsAt_eq_toNat (word : Word) (low width : Nat) :
    bitsAt word low width = (word.extractLsb' low width).toNat := by
  rw [BitVec.extractLsb'_toNat, Nat.shiftRight_eq_div_pow]
  rfl

theorem registerAt_eq (word : Word) (low : Nat) : registerAt word low = word.extractLsb' low 3 := by
  rw [registerAt, bitsAt_eq_toNat, BitVec.ofNat_toNat, BitVec.setWidth_eq]

theorem signedBits_eq_toInt (word : Word) {width : Nat} (positive : 0 < width) :
    signedBits word width = (word.extractLsb' 0 width).toInt := by
  obtain ⟨rest, rfl⟩ := Nat.exists_eq_add_of_le' positive
  have double : twoTo (rest + 1) = twoTo rest * 2 := rfl
  have value := BitVec.toInt_eq_toNat_cond (word.extractLsb' 0 (rest + 1))
  change _ = if 2 * _ < twoTo (rest + 1) then _ else _ - ((twoTo (rest + 1) : Nat) : Int) at value
  rw [value, signedBits, ← bitsAt_eq_toNat, Nat.add_sub_cancel]
  by_cases small : bitsAt word 0 (rest + 1) < twoTo rest
  · rw [if_pos small, if_pos (by omega)]
  · rw [if_neg small, if_neg (by omega)]

theorem getLsbD_iff_bitsAt (word : Word) (index : Nat) :
    word.getLsbD index = true ↔ bitsAt word index 1 = 1 := by
  rw [BitVec.getLsbD, Nat.testBit_eq_decide_div_mod_eq, decide_eq_true_eq]
  rfl

theorem opcode_eq_bitsAt (word : Word) : (word >>> 12).toNat = bitsAt word 12 4 := by
  have bound := word.isLt
  have value : bitsAt word 12 4 = word.toNat / 4096 % 16 := rfl
  rw [BitVec.toNat_ushiftRight, Nat.shiftRight_eq_div_pow, value]
  omega

theorem signExtend_offset (word : Word) {width : Nat} (positive : 0 < width) :
    (word.extractLsb' 0 width).signExtend 16 = wordOf (signedBits word width) := by
  rw [signedBits_eq_toInt word positive]
  rfl

theorem add_wordOf (base : Word) (offset : Int) :
    base + wordOf offset = wordOf (base.toNat + offset) := by
  simp only [wordOf, BitVec.ofInt_add]
  simp

theorem ofWord_eq_signOf (word : Word) : Condition.ofWord word = signOf word := by
  have sign := BitVec.msb_eq_toInt (x := word)
  have zero : word = 0 ↔ word.toInt = 0 := by
    rw [← BitVec.toInt_inj]
    simp
  unfold Condition.ofWord signOf
  by_cases none : word.toInt = 0
  · rw [if_pos (zero.mpr none), if_neg (by omega), if_pos none]
  · rw [if_neg fun same => none (zero.mp same), if_neg none, sign]
    simp

theorem names_iff (word : Word) (flag : Condition) :
    Field.mask word &&& flag.bit ≠ 0 ↔ names word flag := by
  have low (mask : BitVec 3) : mask &&& 1 ≠ 0 ↔ mask.getLsbD 0 = true := by
    revert mask; decide
  have middle (mask : BitVec 3) : mask &&& 2 ≠ 0 ↔ mask.getLsbD 1 = true := by
    revert mask; decide
  have high (mask : BitVec 3) : mask &&& 4 ≠ 0 ↔ mask.getLsbD 2 = true := by
    revert mask; decide
  cases flag with
  | positive =>
      rw [Condition.bit, low, Field.mask, BitVec.getLsbD_extractLsb']
      simpa [names] using getLsbD_iff_bitsAt word 9
  | zero =>
      rw [Condition.bit, middle, Field.mask, BitVec.getLsbD_extractLsb']
      simpa [names] using getLsbD_iff_bitsAt word 10
  | negative =>
      rw [Condition.bit, high, Field.mask, BitVec.getLsbD_extractLsb']
      simpa [names] using getLsbD_iff_bitsAt word 11

theorem complement_eq (word : Word) : ~~~word = wordOf (65535 - (word.toNat : Int)) := by
  apply BitVec.eq_of_toNat_eq
  have value := toNat_wordOf (65535 - (word.toNat : Int))
  have bound := word.isLt
  rw [BitVec.toNat_not]
  omega

/-! Each row is what the instruction of that word does. -/

section

variable {machine after : Machine} {outcome : Outcome}

theorem load_apply (name : Register) (value : Word) (machine : Machine) :
    Exec.load name value machine = .ok () (machine.receive name value) := by
  simp only [Exec.load, Exec.updateRegisters_apply, Registers.load_eq, ofWord_eq_signOf]
  rfl

theorem relative_apply (word : Word) {width : Nat} (positive : 0 < width) (machine : Machine) :
    Exec.relative (word.extractLsb' 0 width) machine =
      .ok (machine.ahead (signedBits word width)) machine := by
  simp only [Exec.relative, Exec.bind_apply, Exec.pc, Exec.view_apply, Exec.pure_apply,
    signExtend_offset word positive, add_wordOf, Machine.ahead]

theorem relative_offset9 (word : Word) (machine : Machine) :
    Exec.relative (Field.offset9 word) machine =
      .ok (machine.ahead (signedBits word 9)) machine :=
  relative_apply word (by decide) machine

theorem relative_offset11 (word : Word) (machine : Machine) :
    Exec.relative (Field.offset11 word) machine =
      .ok (machine.ahead (signedBits word 11)) machine :=
  relative_apply word (by decide) machine

theorem based_offset6 (base : Register) (word : Word) (machine : Machine) :
    Exec.based base (Field.offset6 word) machine =
      .ok (machine.beyond base (signedBits word 6)) machine := by
  simp only [Exec.based, Exec.bind_apply, Exec.register, Exec.view_apply, Exec.pure_apply,
    Field.offset6, signExtend_offset word (show 0 < 6 by decide), add_wordOf, Machine.beyond,
    Machine.number]

theorem operand_apply (word : Word) (machine : Machine) :
    Exec.operand (Instruction.operandOf word) machine =
      .ok (wordOf (machine.second word)) machine := by
  have bit : Field.isImmediate word = true ↔ bitsAt word 5 1 = 1 := getLsbD_iff_bitsAt word 5
  unfold Instruction.operandOf Machine.second
  by_cases constant : bitsAt word 5 1 = 1
  · rw [if_pos constant, if_pos (bit.mpr constant)]
    simp only [Exec.operand, Exec.pure_apply, Field.immediate5,
      signExtend_offset word (show 0 < 5 by decide)]
  · rw [if_neg constant, if_neg fun immediate => constant (bit.mp immediate)]
    simp only [Exec.operand, Exec.register, Exec.view_apply, Machine.number, wordOf_toNat,
      registerAt_eq, Field.second]

theorem execute_branch (word : Word) (machine : Machine) :
    Exec.execute (.branch (Field.mask word) (Field.offset9 word)) machine =
      .ok .continuing (if names word machine.registers.condition
        then machine.goTo (machine.ahead (signedBits word 9)) else machine) := by
  have taken := names_iff word machine.registers.condition
  simp only [Exec.execute, Exec.bind_apply, Exec.condition, Exec.view_apply]
  by_cases named : names word machine.registers.condition
  · rw [if_pos named, if_pos (taken.mpr named)]
    simp only [Exec.bind_apply, relative_offset9]
    rfl
  · rw [if_neg named, if_neg fun bit => named (taken.mp bit)]
    rfl

theorem execute_add (word : Word) (machine : Machine) :
    Exec.execute (.add (Field.destination word) (Field.base word) (Instruction.operandOf word))
        machine =
      .ok .continuing (machine.receive (registerAt word 9)
        (wordOf (machine.number (registerAt word 6) + machine.second word))) := by
  simp only [Exec.execute, Exec.bind_apply, Exec.register, Exec.view_apply, operand_apply,
    load_apply, Exec.pure_apply, add_wordOf, registerAt_eq, Machine.number, Field.destination,
    Field.base]

theorem execute_and (word : Word) (machine : Machine) :
    Exec.execute (.and (Field.destination word) (Field.base word) (Instruction.operandOf word))
        machine =
      .ok .continuing (machine.receive (registerAt word 9)
        (machine.registers.get (registerAt word 6) &&& wordOf (machine.second word))) := by
  simp only [Exec.execute, Exec.bind_apply, Exec.register, Exec.view_apply, operand_apply,
    load_apply, Exec.pure_apply, registerAt_eq, Field.destination, Field.base]

theorem execute_not (word : Word) (machine : Machine) :
    Exec.execute (.not (Field.destination word) (Field.base word)) machine =
      .ok .continuing (machine.receive (registerAt word 9)
        (wordOf (65535 - machine.number (registerAt word 6)))) := by
  simp only [Exec.execute, Exec.bind_apply, Exec.register, Exec.view_apply, load_apply,
    Exec.pure_apply, complement_eq, registerAt_eq, Machine.number, Field.destination, Field.base]

theorem execute_loadAddress (word : Word) (machine : Machine) :
    Exec.execute (.loadAddress (Field.destination word) (Field.offset9 word)) machine =
      .ok .continuing
        (machine.receive (registerAt word 9) (machine.ahead (signedBits word 9))) := by
  simp only [Exec.execute, Exec.bind_apply, relative_offset9,
    load_apply, Exec.pure_apply, registerAt_eq, Field.destination]

theorem execute_store (word : Word) (machine : Machine) :
    Exec.execute (.store (Field.destination word) (Field.offset9 word)) machine =
      .ok .continuing (machine.store (machine.ahead (signedBits word 9))
        (machine.registers.get (registerAt word 9))) := by
  simp only [Exec.execute, Exec.bind_apply, relative_offset9,
    Exec.register, Exec.view_apply, Exec.write_apply, Exec.pure_apply, registerAt_eq,
    Field.destination, Machine.store]

theorem execute_storeBase (word : Word) (machine : Machine) :
    Exec.execute (.storeBase (Field.destination word) (Field.base word) (Field.offset6 word))
        machine =
      .ok .continuing (machine.store (machine.beyond (registerAt word 6) (signedBits word 6))
        (machine.registers.get (registerAt word 9))) := by
  simp only [Exec.execute, Exec.bind_apply, based_offset6, Exec.register,
    Exec.view_apply, Exec.write_apply, Exec.pure_apply, registerAt_eq, Field.destination,
    Field.base, Machine.store]

theorem execute_jump (word : Word) (machine : Machine) :
    Exec.execute (.jump (Field.base word)) machine =
      .ok .continuing (machine.goTo (machine.registers.get (registerAt word 6))) := by
  simp only [Exec.execute, Exec.bind_apply, Exec.register, Exec.view_apply, Exec.jump,
    Exec.updateRegisters_apply, Exec.pure_apply, registerAt_eq, Field.base, Machine.goTo]

theorem execute_call (word : Word) (machine : Machine) :
    Exec.execute (if Field.isLong word then .call (Field.offset11 word)
        else .callRegister (Field.base word)) machine =
      .ok .continuing ((machine.assign 7 machine.registers.pc).goTo
        (if bitsAt word 11 1 = 1 then machine.ahead (signedBits word 11)
        else if registerAt word 6 = 7 then machine.registers.pc
        else machine.registers.get (registerAt word 6))) := by
  have bit : Field.isLong word = true ↔ bitsAt word 11 1 = 1 := getLsbD_iff_bitsAt word 11
  by_cases long : bitsAt word 11 1 = 1
  · rw [if_pos long, if_pos (bit.mpr long)]
    simp only [Exec.execute, Exec.bind_apply, Exec.pc, Exec.view_apply, Exec.setRegister,
      Exec.updateRegisters_apply, relative_offset11, Exec.jump,
      Exec.pure_apply]
    rfl
  · rw [if_neg long, if_neg fun wide => long (bit.mp wide)]
    simp only [Exec.execute, Exec.bind_apply, Exec.pc, Exec.view_apply, Exec.setRegister,
      Exec.updateRegisters_apply, Exec.register, Exec.jump, Exec.pure_apply, Register.link,
      ← registerAt_eq, Field.base]
    by_cases own : registerAt word 6 = 7
    · rw [own, Registers.get_set_self, if_pos rfl]
      rfl
    · rw [Registers.get_set_of_ne _ _ fun same => own same.symm, if_neg own]
      rfl

/-! Rows that read. They fail as their reads do. -/

theorem execute_load (word : Word) (machine : Machine) :
    Exec.execute (.load (Field.destination word) (Field.offset9 word)) machine =
      match Exec.read (machine.ahead (signedBits word 9)) machine with
      | .ok value read => .ok .continuing (read.receive (registerAt word 9) value)
      | .error interrupt read => .error interrupt read := by
  simp only [Exec.execute, Exec.bind_apply, relative_offset9,
    load_apply, Exec.pure_apply, registerAt_eq, Field.destination]
  cases Exec.read (machine.ahead (signedBits word 9)) machine <;> rfl

theorem execute_loadBase (word : Word) (machine : Machine) :
    Exec.execute (.loadBase (Field.destination word) (Field.base word) (Field.offset6 word))
        machine =
      match Exec.read (machine.beyond (registerAt word 6) (signedBits word 6)) machine with
      | .ok value read => .ok .continuing (read.receive (registerAt word 9) value)
      | .error interrupt read => .error interrupt read := by
  simp only [Exec.execute, Exec.bind_apply, based_offset6, load_apply,
    Exec.pure_apply, registerAt_eq, Field.destination, Field.base]
  cases Exec.read (machine.beyond (BitVec.extractLsb' 6 3 word) (signedBits word 6)) machine <;> rfl

theorem execute_loadIndirect (word : Word) (machine : Machine) :
    Exec.execute (.loadIndirect (Field.destination word) (Field.offset9 word)) machine =
      match Exec.read (machine.ahead (signedBits word 9)) machine with
      | .ok pointer first =>
        match Exec.read pointer first with
        | .ok value read => .ok .continuing (read.receive (registerAt word 9) value)
        | .error interrupt read => .error interrupt read
      | .error interrupt read => .error interrupt read := by
  simp only [Exec.execute, Exec.bind_apply, relative_offset9,
    load_apply, Exec.pure_apply, registerAt_eq, Field.destination]
  cases Exec.read (machine.ahead (signedBits word 9)) machine with
  | error => rfl
  | ok pointer first =>
      simp only []
      cases Exec.read pointer first <;> rfl

theorem execute_storeIndirect (word : Word) (machine : Machine) :
    Exec.execute (.storeIndirect (Field.destination word) (Field.offset9 word)) machine =
      match Exec.read (machine.ahead (signedBits word 9)) machine with
      | .ok pointer read =>
        .ok .continuing (read.store pointer (read.registers.get (registerAt word 9)))
      | .error interrupt read => .error interrupt read := by
  simp only [Exec.execute, Exec.bind_apply, relative_offset9,
    Exec.register, Exec.view_apply, Exec.write_apply, Exec.pure_apply, registerAt_eq,
    Field.destination, Machine.store]
  cases Exec.read (machine.ahead (signedBits word 9)) machine <;> rfl

end

theorem after_read_eq_ok_iff {machine after : Machine} {outcome : Outcome} {address : Word}
    (proper : machine.keyboard.Proper)
    (next : Word → Machine → EStateM.Result Interrupt Machine Outcome) :
    (match Exec.read address machine with
      | .ok value read => next value read
      | .error interrupt read => .error interrupt read) = .ok outcome after ↔
      ∃ value read, Reads machine address value read ∧ next value read = .ok outcome after := by
  simp only [← read_eq_ok_iff proper]
  cases Exec.read address machine with
  | ok value read =>
      constructor
      · intro ended
        exact ⟨value, read, rfl, ended⟩
      · rintro ⟨_, _, ⟨⟩, ended⟩
        exact ended
  | error interrupt read => simp

theorem last_read_eq_ok_iff {machine after : Machine} {outcome : Outcome} {address : Word}
    (proper : machine.keyboard.Proper) (finish : Word → Machine → Machine) :
    (match Exec.read address machine with
      | .ok value read => .ok .continuing (finish value read)
      | .error interrupt read => .error interrupt read :
        EStateM.Result Interrupt Machine Outcome) = .ok outcome after ↔
      ∃ value read, Reads machine address value read ∧
        outcome = .continuing ∧ after = finish value read := by
  have both := @after_read_eq_ok_iff machine after outcome address proper
    fun value read => .ok .continuing (finish value read)
  simpa only [ok_eq_ok_iff] using both

/-- Every word denotes an instruction that does what the word's row says. -/
theorem execute_eq_ok_iff {machine after : Machine} {outcome : Outcome}
    (proper : machine.keyboard.Proper) (word : Word) :
    Exec.execute (Instruction.decode word) machine = .ok outcome after ↔
      Row word machine outcome after := by
  have bound : bitsAt word 12 4 < 16 := Nat.mod_lt _ (by decide)
  unfold Instruction.decode Opcode.ofWord Row
  rw [opcode_eq_bitsAt]
  generalize bitsAt word 12 4 = opcode at bound
  match opcode, bound with
  | 0, _ => exact execute_branch word machine ▸ ok_eq_ok_iff
  | 1, _ => exact execute_add word machine ▸ ok_eq_ok_iff
  | 2, _ => exact execute_load word machine ▸ last_read_eq_ok_iff proper _
  | 3, _ => exact execute_store word machine ▸ ok_eq_ok_iff
  | 4, _ => exact execute_call word machine ▸ ok_eq_ok_iff
  | 5, _ => exact execute_and word machine ▸ ok_eq_ok_iff
  | 6, _ => exact execute_loadBase word machine ▸ last_read_eq_ok_iff proper _
  | 7, _ => exact execute_storeBase word machine ▸ ok_eq_ok_iff
  | 8, _ => exact ok_eq_ok_iff
  | 9, _ => exact execute_not word machine ▸ ok_eq_ok_iff
  | 10, _ =>
      refine execute_loadIndirect word machine ▸ (after_read_eq_ok_iff proper _).trans ?_
      refine exists_congr fun pointer => exists_congr fun first => ?_
      constructor
      · rintro ⟨reads, ended⟩
        have again : first.keyboard.Proper := reads.keyboard_eq ▸ proper
        obtain ⟨value, read, second, rest⟩ := (last_read_eq_ok_iff again _).mp ended
        exact ⟨value, read, reads, second, rest⟩
      · rintro ⟨value, read, reads, second, rest⟩
        have again : first.keyboard.Proper := reads.keyboard_eq ▸ proper
        exact ⟨reads, (last_read_eq_ok_iff again _).mpr ⟨value, read, second, rest⟩⟩
  | 11, _ =>
      refine execute_storeIndirect word machine ▸ (after_read_eq_ok_iff proper _).trans ?_
      refine exists_congr fun pointer => exists_congr fun read => and_congr_right fun reads => ?_
      rw [reads.registers_eq]
      exact ok_eq_ok_iff
  | 12, _ => exact execute_jump word machine ▸ ok_eq_ok_iff
  | 13, _ => exact ok_eq_ok_iff
  | 14, _ => exact execute_loadAddress word machine ▸ ok_eq_ok_iff
  | 15, _ =>
      have vector : (Field.vector word).toNat = bitsAt word 0 8 := (bitsAt_eq_toNat word 0 8).symm
      exact vector ▸ trap_eq_ok_iff proper.reachable _
  | opcode + 16, beyond => omega

/-- A word is read, the program counter moves behind it, and what it denotes is executed. -/
theorem Exec.work_apply (machine : Machine) :
    Exec.work machine =
      match Exec.read machine.registers.pc machine with
      | .ok word fetched => Exec.execute (Instruction.decode word) (fetched.goTo (machine.ahead 1))
      | .error interrupt after => .error interrupt after := by
  have next : machine.registers.pc + 1 = machine.ahead 1 := add_wordOf machine.registers.pc 1
  simp only [Exec.work, Exec.fetch, Exec.bind_apply, Exec.pc, Exec.view_apply, ← next]
  cases Exec.read machine.registers.pc machine <;> rfl

theorem work_eq_ok_iff {machine done : Machine} {outcome : Outcome}
    (proper : machine.keyboard.Proper) :
    Exec.work machine = .ok outcome done ↔
      ∃ word fetched, Reads machine machine.registers.pc word fetched ∧
        Row word (fetched.goTo (machine.ahead 1)) outcome done := by
  rw [Exec.work_apply, after_read_eq_ok_iff proper]
  refine exists_congr fun word => exists_congr fun fetched => and_congr_right fun reads => ?_
  have again : (fetched.goTo (machine.ahead 1)).keyboard.Proper := reads.keyboard_eq ▸ proper
  exact execute_eq_ok_iff again word

/-- A step is a step by the table, and it ends well unless the failure of a call is passed on. -/
theorem step_iff_table {machine : Machine} (working : machine.state = .continuing)
    (proper : machine.keyboard.Proper) :
    (∀ outcome after,
      Exec.step machine = .ok outcome after ↔ StepsByTable machine outcome after) ∧
    ((∀ call ∈ Exec.callsOf Exec.step machine, call.passedOn? = none) →
      ∃ outcome after, Exec.step machine = .ok outcome after) := by
  refine ⟨fun outcome after => ?_, (Exec.step_ends_iff_calls working proper.reachable).mpr⟩
  rw [Exec.step_eq_ok_iff working]
  constructor
  · rintro ⟨done, worked, rfl⟩
    obtain ⟨word, fetched, reads, row⟩ := (work_eq_ok_iff proper).mp worked
    obtain ⟨_, _, _, rfl⟩ := Exec.Built.work.frame worked
    exact ⟨word, fetched, _, reads, row, rfl⟩
  · rintro ⟨word, fetched, done, reads, row, rfl⟩
    have worked := (work_eq_ok_iff proper).mpr ⟨word, fetched, reads, row⟩
    obtain ⟨_, _, _, rfl⟩ := Exec.Built.work.frame worked
    exact ⟨_, worked, rfl⟩

def Machine.increment : Machine :=
  .load ⟨0x3000, [0x1021]⟩ .standard none defaultHaltMessage (.ofSourceSink (.script []) .full)

theorem increment_iff_table :
    Machine.increment.state = .continuing ∧ Machine.increment.keyboard.Proper ∧
    (∀ outcome after, Exec.step Machine.increment = .ok outcome after ↔
      StepsByTable Machine.increment outcome after) ∧
    ((∀ call ∈ Exec.callsOf Exec.step Machine.increment, call.passedOn? = none) →
      ∃ outcome after, Exec.step Machine.increment = .ok outcome after) :=
  ⟨rfl, Keyboard.standard_proper, step_iff_table rfl Keyboard.standard_proper⟩

end Lc3
