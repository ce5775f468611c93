import Lc3.Proofs.RunStops

/-!
The condition flag over a whole run. It is the sign of the word that the latest of the loading
instructions wrote, whatever else was executed since, and so it is this word that decides which
conditional branches are taken.
-/

namespace Lc3

/-- The instructions that load a register and set the flag: ADD, LD, AND, LDR, NOT, LDI and LEA. -/
def Loads (word : Word) : Prop := bitsAt word 12 4 ∈ [1, 2, 5, 6, 9, 10, 14]

instance (word : Word) : Decidable (Loads word) := inferInstanceAs (Decidable (_ ∈ _))

/-- After so many steps an instruction is executed that loads a register with this word. -/
def LoadedAt (machine : Machine) (index : Nat) (value : Word) : Prop :=
  ∃ before word fetched outcome after, Steps machine index before ∧ before.state = .continuing ∧
    Exec.read before.registers.pc before = .ok word fetched ∧ Loads word ∧
    Exec.step before = .ok outcome after ∧ value = after.registers.get (registerAt word 9)

/-- The word that was loaded last in so many steps, or none if no word was. -/
def LatestLoad (machine : Machine) (count : Nat) : Option Word → Prop
  | some value => ∃ index, index < count ∧ LoadedAt machine index value ∧
      ∀ later other, index < later → later < count → ¬LoadedAt machine later other
  | none => ∀ index value, index < count → ¬LoadedAt machine index value

/-- The flag that describes a loaded word. Before any load it is that of zero. -/
def flagOf : Option Word → Condition
  | some value => signOf value
  | none => .zero

namespace Machine

@[simp] theorem condition_receive (machine : Machine) (name : Register) (value : Word) :
    (machine.receive name value).registers.condition = signOf value := rfl

@[simp] theorem get_receive_self (machine : Machine) (name : Register) (value : Word) :
    (machine.receive name value).registers.get name = value :=
  Registers.get_set_self machine.registers name value

end Machine

/-! One step. -/

theorem Serves.condition_eq {vector : Nat} {machine after : Machine} {outcome : Outcome}
    (serves : Serves vector machine outcome after) :
    after.registers.condition = machine.registers.condition := by
  unfold Serves at serves
  split at serves
  · obtain ⟨char, terminal, _, _, rfl⟩ := serves
    rfl
  · obtain ⟨terminal, _, _, rfl⟩ := serves
    rfl
  · obtain ⟨reads, words, walked, terminal, walk, _, _, rfl⟩ := serves
    exact congrArg Registers.condition walk.registers_eq
  · obtain ⟨char, typed, _, _, echo⟩ := serves
    split at echo
    · rw [echo]
      rfl
    · obtain ⟨terminal, _, rfl⟩ := echo
      rfl
  · obtain ⟨reads, words, walked, terminal, walk, _, _, rfl⟩ := serves
    exact congrArg Registers.condition walk.registers_eq
  · obtain ⟨terminal, _, _, rfl⟩ := serves
    rfl
  · obtain ⟨_, rfl⟩ := serves
    rfl

theorem Row.condition_of_loads {word : Word} {machine after : Machine} {outcome : Outcome}
    (row : Row word machine outcome after) (loads : Loads word) :
    after.registers.condition = signOf (after.registers.get (registerAt word 9)) := by
  unfold Loads at loads
  unfold Row at row
  generalize bitsAt word 12 4 = opcode at loads row
  match opcode, row with
  | 1, ⟨_, received⟩ | 5, ⟨_, received⟩ | 9, ⟨_, received⟩ | 14, ⟨_, received⟩ =>
      rw [received, Machine.condition_receive, Machine.get_receive_self]
  | 2, ⟨_, _, _, _, received⟩ | 6, ⟨_, _, _, _, received⟩ =>
      rw [received, Machine.condition_receive, Machine.get_receive_self]
  | 10, ⟨_, _, _, _, _, _, _, received⟩ =>
      rw [received, Machine.condition_receive, Machine.get_receive_self]
  | 0, _ | 3, _ | 4, _ | 7, _ | 8, _ | 11, _ | 12, _ | 13, _ | 15, _ =>
      exact absurd loads (by decide)

theorem Row.condition_of_not_loads {word : Word} {machine after : Machine} {outcome : Outcome}
    (row : Row word machine outcome after) (other : ¬Loads word) :
    after.registers.condition = machine.registers.condition := by
  unfold Loads at other
  unfold Row at row
  generalize bitsAt word 12 4 = opcode at other row
  match opcode, row with
  | 0, ⟨_, branched⟩ =>
      rw [branched]
      split
      · rfl
      · rfl
  | 3, ⟨_, stored⟩ | 7, ⟨_, stored⟩ =>
      rw [stored]
      rfl
  | 4, ⟨_, jumped⟩ | 12, ⟨_, jumped⟩ =>
      rw [jumped]
      rfl
  | 8, ⟨_, same⟩ | 13, ⟨_, same⟩ => rw [same]
  | 11, ⟨_, read, reads, _, stored⟩ =>
      rw [stored]
      exact congrArg Registers.condition reads.registers_eq
  | 15, serves => exact Serves.condition_eq serves
  | 1, _ | 2, _ | 5, _ | 6, _ | 9, _ | 10, _ | 14, _ => exact absurd (by decide) other

/-- A step that loads makes the flag describe the word it wrote; no other step touches it. -/
theorem StepsByTable.condition {machine after : Machine} {outcome : Outcome}
    (step : StepsByTable machine outcome after) :
    ∃ word fetched, Reads machine machine.registers.pc word fetched ∧
      after.registers.condition =
        if Loads word then signOf (after.registers.get (registerAt word 9))
        else machine.registers.condition := by
  obtain ⟨word, fetched, done, reads, row, rfl⟩ := step
  refine ⟨word, fetched, reads, ?_⟩
  by_cases loads : Loads word
  · rw [if_pos loads]
    exact row.condition_of_loads loads
  · rw [if_neg loads]
    calc
      done.registers.condition = fetched.registers.condition := row.condition_of_not_loads loads
      _ = machine.registers.condition := congrArg Registers.condition reads.registers_eq

/-! Runs of steps. -/

namespace LoadedAt

variable {machine : Machine} {index : Nat} {value other : Word}

theorem unique (loaded : LoadedAt machine index value) (again : LoadedAt machine index other) :
    other = value := by
  obtain ⟨before, word, fetched, outcome, after, steps, _, found, _, step, rfl⟩ := loaded
  obtain ⟨before', word', fetched', outcome', after', steps', _, found', _, step', rfl⟩ := again
  obtain rfl := steps.deterministic steps'
  rw [found, EStateM.Result.ok.injEq] at found'
  rw [step, EStateM.Result.ok.injEq] at step'
  rw [← found'.1, ← step'.2]

end LoadedAt

namespace LatestLoad

variable {machine : Machine} {count : Nat} {value : Word} {value? other? : Option Word}

theorem zero (machine : Machine) : LatestLoad machine 0 none := by
  intro index value less
  omega

theorem of_loaded (loaded : LoadedAt machine count value) :
    LatestLoad machine (count + 1) (some value) := by
  refine ⟨count, Nat.lt_succ_self count, loaded, ?_⟩
  intro later other beyond less
  omega

theorem of_kept (latest : LatestLoad machine count value?)
    (kept : ∀ value, ¬LoadedAt machine count value) : LatestLoad machine (count + 1) value? := by
  have before {index : Nat} (less : index < count + 1) : index < count ∨ index = count := by
    omega
  cases value? with
  | none =>
      intro index value less
      rcases before less with earlier | rfl
      · exact latest index value earlier
      · exact kept value
  | some value =>
      obtain ⟨index, less, loaded, last⟩ := latest
      refine ⟨index, by omega, loaded, ?_⟩
      intro later other beyond less
      rcases before less with earlier | rfl
      · exact last later other beyond earlier
      · exact kept other

theorem unique (latest : LatestLoad machine count value?)
    (again : LatestLoad machine count other?) : other? = value? := by
  cases value? with
  | none =>
      cases other? with
      | none => rfl
      | some other =>
          obtain ⟨index, less, loaded, _⟩ := again
          exact absurd loaded (latest index other less)
  | some value =>
      obtain ⟨index, less, loaded, last⟩ := latest
      cases other? with
      | none => exact absurd loaded (again index value less)
      | some other =>
          obtain ⟨index', less', loaded', last'⟩ := again
          rcases Nat.lt_trichotomy index index' with before | rfl | beyond
          · exact absurd loaded' (last index' other before less')
          · exact congrArg some (loaded.unique loaded')
          · exact absurd loaded (last' index value beyond less)

end LatestLoad

theorem condition_of_steps {machine last : Machine} {count : Nat}
    (proper : machine.keyboard.Proper) (fresh : machine.registers.condition = .zero)
    (steps : Steps machine count last) :
    ∃ value?, LatestLoad machine count value? ∧ last.registers.condition = flagOf value? := by
  -- On the number of steps, taking off the last one: it is this step that may load.
  induction count generalizing last with
  | zero =>
      cases steps
      exact ⟨none, .zero machine, fresh⟩
  | succ count ih =>
      obtain ⟨before, outcome, earlier, step⟩ := steps.exists_last
      obtain ⟨value?, latest, described⟩ := ih earlier
      by_cases working : before.state = .continuing
      · have again : before.keyboard.Proper := earlier.keyboard ▸ proper
        have table := ((step_iff_table working again).1 outcome last).mp step
        obtain ⟨word, fetched, reads, condition⟩ := table.condition
        have found := (read_eq_ok_iff again).mpr reads
        by_cases loads : Loads word
        · rw [if_pos loads] at condition
          have loaded : LoadedAt machine count (last.registers.get (registerAt word 9)) :=
            ⟨before, word, fetched, outcome, last, earlier, working, found, loads, step, rfl⟩
          exact ⟨_, .of_loaded loaded, condition⟩
        · rw [if_neg loads] at condition
          refine ⟨value?, latest.of_kept ?_, condition.trans described⟩
          rintro value ⟨before', word', fetched', _, _, earlier', _, found', loads', _, _⟩
          obtain rfl := earlier.deterministic earlier'
          rw [found, EStateM.Result.ok.injEq] at found'
          exact loads (found'.1 ▸ loads')
      · -- A program that has ended executes nothing, so that this step cannot have loaded either.
        rw [Exec.step_of_ended working, EStateM.Result.ok.injEq] at step
        obtain ⟨_, rfl⟩ := step
        refine ⟨value?, latest.of_kept ?_, described⟩
        rintro value ⟨before', _, _, _, _, earlier', working', _⟩
        obtain rfl := earlier.deterministic earlier'
        exact working working'

/-! Conditional branches. -/

/-- The numbers that a mask selects: its bits stand for the negative ones, zero and the positive
ones. -/
def Selects (mask : BitVec 3) (value : Int) : Prop :=
  mask.getLsbD 2 = true ∧ value < 0 ∨ mask.getLsbD 1 = true ∧ value = 0 ∨
    mask.getLsbD 0 = true ∧ 0 < value

instance (mask : BitVec 3) (value : Int) : Decidable (Selects mask value) :=
  inferInstanceAs (Decidable (_ ∨ _))

def branchWord (mask : BitVec 3) (offset : BitVec 9) : Word := (0 : BitVec 4) ++ mask ++ offset

theorem opcode_branchWord (mask : BitVec 3) (offset : BitVec 9) :
    bitsAt (branchWord mask offset) 12 4 = 0 := by
  have behind : (branchWord mask offset).extractLsb' 12 4 =
      ((0 : BitVec 4) ++ mask).extractLsb' 3 4 :=
    BitVec.extractLsb'_append_eq_of_le (by decide)
  rw [bitsAt_eq_toNat, behind, BitVec.extractLsb'_append_eq_left]
  rfl

theorem mask_branchWord (mask : BitVec 3) (offset : BitVec 9) :
    Field.mask (branchWord mask offset) = mask := by
  have behind : Field.mask (branchWord mask offset) = ((0 : BitVec 4) ++ mask).extractLsb' 0 3 :=
    BitVec.extractLsb'_append_eq_of_le (by decide)
  exact behind.trans BitVec.extractLsb'_append_eq_right

theorem signedBits_branchWord (mask : BitVec 3) (offset : BitVec 9) :
    signedBits (branchWord mask offset) 9 = offset.toInt := by
  rw [signedBits_eq_toInt _ (by decide)]
  exact congrArg BitVec.toInt BitVec.extractLsb'_append_eq_right

theorem getLsbD_mask_iff (word : Word) {index : Nat} (bound : index < 3) :
    (Field.mask word).getLsbD index = true ↔ bitsAt word (9 + index) 1 = 1 := by
  rw [← getLsbD_iff_bitsAt, Field.mask, BitVec.getLsbD_extractLsb']
  simp [bound]

theorem names_iff_selects (word value : Word) :
    names word (signOf value) ↔ Selects (Field.mask word) value.toInt := by
  have negative := getLsbD_mask_iff word (show 2 < 3 by decide)
  have zero := getLsbD_mask_iff word (show 1 < 3 by decide)
  have positive := getLsbD_mask_iff word (show 0 < 3 by decide)
  unfold Selects signOf
  rw [negative, zero, positive]
  rcases Int.lt_trichotomy value.toInt 0 with below | none | above
  · rw [if_pos below]
    constructor
    · intro named
      exact .inl ⟨named, below⟩
    · rintro (⟨named, _⟩ | ⟨_, same⟩ | ⟨_, above⟩)
      · exact named
      · omega
      · omega
  · rw [if_neg (by omega), if_pos none]
    constructor
    · intro named
      exact .inr (.inl ⟨named, none⟩)
    · rintro (⟨_, below⟩ | ⟨named, _⟩ | ⟨_, above⟩)
      · omega
      · exact named
      · omega
  · rw [if_neg (by omega), if_neg (by omega)]
    constructor
    · intro named
      exact .inr (.inr ⟨named, above⟩)
    · rintro (⟨_, below⟩ | ⟨_, same⟩ | ⟨named, _⟩)
      · omega
      · omega
      · exact named

theorem selects_all (value : Int) : Selects 7 value := by
  rcases Int.lt_trichotomy value 0 with below | none | above
  · exact .inl ⟨rfl, below⟩
  · exact .inr (.inl ⟨rfl, none⟩)
  · exact .inr (.inr ⟨rfl, above⟩)

theorem exists_single_selecting (value : Int) :
    ∃ mask : BitVec 3, (mask ∈ [4, 2, 1] ∧ Selects mask value) ∧
      ∀ other : BitVec 3, other ∈ [4, 2, 1] ∧ Selects other value → other = mask := by
  have negative : Selects 4 value ↔ value < 0 := by simp [Selects]
  have zero : Selects 2 value ↔ value = 0 := by simp [Selects]
  have positive : Selects 1 value ↔ 0 < value := by simp [Selects]
  simp only [List.mem_cons, List.not_mem_nil, or_false]
  rcases Int.lt_trichotomy value 0 with below | none | above
  · refine ⟨4, ⟨.inl rfl, negative.mpr below⟩, ?_⟩
    rintro _ ⟨rfl | rfl | rfl, selected⟩
    · rfl
    · have same := zero.mp selected
      omega
    · have above := positive.mp selected
      omega
  · refine ⟨2, ⟨.inr (.inl rfl), zero.mpr none⟩, ?_⟩
    rintro _ ⟨rfl | rfl | rfl, selected⟩
    · have below := negative.mp selected
      omega
    · rfl
    · have above := positive.mp selected
      omega
  · refine ⟨1, ⟨.inr (.inr rfl), positive.mpr above⟩, ?_⟩
    rintro _ ⟨rfl | rfl | rfl, selected⟩
    · have below := negative.mp selected
      omega
    · have same := zero.mp selected
      omega
    · rfl

namespace Machine

theorem ahead_goTo (machine : Machine) (first second : Int) :
    (machine.goTo (machine.ahead first)).ahead second = machine.ahead (first + second) := by
  change wordOf ((machine.ahead first).toNat + second) = _
  rw [← add_wordOf, ahead, ahead, wordOf, wordOf, wordOf, ← BitVec.ofInt_add, Int.add_assoc]

theorem goTo_ahead_ne (machine : Machine) :
    machine.goTo (machine.ahead 1) ≠ machine.goTo (machine.ahead (1 + (1 : BitVec 9).toInt)) := by
  intro same
  have target : machine.ahead 1 = machine.ahead (1 + (1 : BitVec 9).toInt) :=
    congrArg (fun moved : Machine => moved.registers.pc) same
  have behind := toNat_wordOf (machine.registers.pc.toNat + 1)
  have beyond := toNat_wordOf (machine.registers.pc.toNat + (1 + (1 : BitVec 9).toInt))
  have one : (1 : BitVec 9).toInt = 1 := by decide
  rw [ahead, ahead] at target
  rw [target] at behind
  omega

/-- The branches with a mask, met at the program counter, go to their targets. -/
def Takes (machine : Machine) (mask : BitVec 3) : Prop :=
  ∀ offset, Exec.execute (Instruction.decode (branchWord mask offset))
      (machine.goTo (machine.ahead 1)) =
    .ok .continuing (machine.goTo (machine.ahead (1 + offset.toInt)))

/-- The branches with a mask, met at the program counter, go on behind themselves. -/
def Passes (machine : Machine) (mask : BitVec 3) : Prop :=
  ∀ offset, Exec.execute (Instruction.decode (branchWord mask offset))
      (machine.goTo (machine.ahead 1)) =
    .ok .continuing (machine.goTo (machine.ahead 1))

/-- The sign of a number decides every branch that the machine can meet. -/
structure BranchesBy (machine : Machine) (value : Int) : Prop where
  takes : ∀ mask, machine.Takes mask ↔ Selects mask value
  passes : ∀ mask, machine.Passes mask ↔ ¬Selects mask value
  single : ∃ mask, (mask ∈ [4, 2, 1] ∧ machine.Takes mask) ∧
    ∀ other, other ∈ [4, 2, 1] ∧ machine.Takes other → other = mask
  always : machine.Takes 7
  never : machine.Passes 0
  steps : ∀ memory word fetched,
    Exec.read machine.registers.pc { machine with memory, state := .continuing } =
      .ok word fetched →
    bitsAt word 12 4 = 0 →
    Exec.step { machine with memory, state := .continuing } = .ok .continuing
      { fetched.goTo (machine.ahead
          (if Selects (Field.mask word) value then 1 + signedBits word 9 else 1)) with
        tick := fetched.tick + 1
        state := .continuing }

end Machine

section

variable {machine : Machine} {value : Word}
  (described : machine.registers.condition = signOf value)

include described

theorem execute_of_branch {word : Word} (branch : bitsAt word 12 4 = 0) :
    Exec.execute (Instruction.decode word) (machine.goTo (machine.ahead 1)) =
      .ok .continuing (machine.goTo (machine.ahead
        (if Selects (Field.mask word) value.toInt then 1 + signedBits word 9 else 1))) := by
  have decoded : Instruction.decode word = .branch (Field.mask word) (Field.offset9 word) := by
    rw [Instruction.decode, Opcode.ofWord, opcode_eq_bitsAt, branch]
    rfl
  have names : names word (machine.goTo (machine.ahead 1)).registers.condition ↔
      Selects (Field.mask word) value.toInt := described ▸ names_iff_selects word value
  rw [decoded, execute_branch, Machine.ahead_goTo]
  by_cases selected : Selects (Field.mask word) value.toInt
  · rw [if_pos (names.mpr selected), if_pos selected]
    rfl
  · rw [if_neg fun named => selected (names.mp named), if_neg selected]

theorem execute_branchWord (mask : BitVec 3) (offset : BitVec 9) :
    Exec.execute (Instruction.decode (branchWord mask offset)) (machine.goTo (machine.ahead 1)) =
      .ok .continuing (machine.goTo (machine.ahead
        (if Selects mask value.toInt then 1 + offset.toInt else 1))) := by
  rw [execute_of_branch described (opcode_branchWord mask offset), mask_branchWord,
    signedBits_branchWord]

theorem takes_iff (mask : BitVec 3) : machine.Takes mask ↔ Selects mask value.toInt := by
  constructor
  · intro takes
    refine Classical.byContradiction fun unselected => ?_
    -- At distance 0 both ways lead to one place; distance 1 tells them apart.
    have next := takes 1
    rw [execute_branchWord described, if_neg unselected, EStateM.Result.ok.injEq] at next
    exact machine.goTo_ahead_ne next.2
  · intro selected offset
    rw [execute_branchWord described, if_pos selected]

theorem passes_iff (mask : BitVec 3) : machine.Passes mask ↔ ¬Selects mask value.toInt := by
  constructor
  · intro passes selected
    have next := passes 1
    rw [execute_branchWord described, if_pos selected, EStateM.Result.ok.injEq] at next
    exact machine.goTo_ahead_ne next.2.symm
  · intro unselected offset
    rw [execute_branchWord described, if_neg unselected]

theorem branchesBy : machine.BranchesBy value.toInt where
  takes := takes_iff described
  passes := passes_iff described
  single := by
    simp only [takes_iff described]
    exact exists_single_selecting value.toInt
  always := (takes_iff described 7).mpr (selects_all value.toInt)
  never := (passes_iff described 0).mpr (by simp [Selects])
  steps := by
    intro memory word fetched found branch
    have read := Exec.registers_of_read found
    have same : fetched.registers = machine.registers := read
    have described' : fetched.registers.condition = signOf value := same ▸ described
    have ahead (offset : Int) : fetched.ahead offset = machine.ahead offset := by
      rw [Machine.ahead, same, Machine.ahead]
    have executed := execute_of_branch described' branch
    rw [ahead, ahead] at executed
    refine (Exec.step_eq_ok_iff rfl).mpr ⟨_, ?_, rfl⟩
    rw [Exec.work_apply, found]
    exact executed

end

theorem flagOf_eq (value? : Option Word) : flagOf value? = signOf (value?.getD 0) := by
  cases value? <;> rfl

/-- The word that was loaded last in so many steps gives the flag and decides all branches. -/
def LatestLoadDecides (machine : Machine) (count : Nat) (last : Machine) : Prop :=
  ∃ value?, (∀ other?, LatestLoad machine count other? ↔ other? = value?) ∧
    last.registers.condition = flagOf value? ∧ last.BranchesBy (value?.getD 0).toInt

theorem Steps.latestLoadDecides {machine last : Machine} {count : Nat}
    (proper : machine.keyboard.Proper) (fresh : machine.registers.condition = .zero)
    (steps : Steps machine count last) : LatestLoadDecides machine count last := by
  obtain ⟨value?, latest, condition⟩ := condition_of_steps proper fresh steps
  refine ⟨value?, fun other? => ?_, condition, branchesBy (condition.trans (flagOf_eq value?))⟩
  constructor
  · intro other
    exact latest.unique other
  · rintro rfl
    exact latest

/-- In a machine as it was built the flag describes the latest load, after any number of steps and
at the end of a run. -/
theorem condition_describes_latest_load {files : Files} {image config : Value} {console : Console}
    {machine : Machine} (built : build files image config console = .ok machine) :
    (∀ count last, Steps machine count last → LatestLoadDecides machine count last) ∧
    ∀ outcome after, Exec.run machine = .ok (some outcome) after →
      ∃ count last, Steps machine count last ∧ after.registers = last.registers ∧
        LatestLoadDecides machine count after := by
  obtain ⟨program, settings, rfl, _⟩ := build_eq_ok built
  have proper := Machine.ofConfig_proper program settings console
  refine ⟨fun count last => Steps.latestLoadDecides proper rfl, fun outcome after ran => ?_⟩
  obtain ⟨count, last, first, _, left⟩ := run_eq_some_iff.mp ran
  have registers : after.registers = last.registers := by rw [left, last.leftAfter_eq]
  obtain ⟨value?, latest, condition, _⟩ := Steps.latestLoadDecides proper rfl first.reached
  have still : after.registers.condition = flagOf value? := registers ▸ condition
  exact ⟨count, last, first.reached, registers, value?, latest, still,
    branchesBy (still.trans (flagOf_eq value?))⟩

/-- R0 is loaded with -1 and then takes a character, which leaves the flag as it is. -/
theorem condition_describes_load_before_input :
    ∃ machine last,
      build ⟨[]⟩ (.bytes .constant [0, 0, 0x10, 0x3F, 0xF0, 0x20]) .null
        (.ofSourceSink (.script [.line "A"]) .full) = .ok machine ∧
      Steps machine 2 last ∧ last.registers.get 0 = 0x41 ∧
      last.registers.condition = .negative ∧ LatestLoadDecides machine 2 last := by
  obtain ⟨machine, between, last, built, first, second, character, sign⟩ :
      ∃ machine between last,
        build ⟨[]⟩ (.bytes .constant [0, 0, 0x10, 0x3F, 0xF0, 0x20]) .null
          (.ofSourceSink (.script [.line "A"]) .full) = .ok machine ∧
        Exec.step machine = .ok .continuing between ∧ Exec.step between = .ok .continuing last ∧
        last.registers.get 0 = 0x41 ∧ last.registers.condition = .negative :=
    ⟨_, _, _, rfl, rfl, rfl, rfl, rfl⟩
  have steps : Steps machine 2 last := .more first (.more second .none)
  exact ⟨machine, last, built, steps, character, sign,
    (condition_describes_latest_load built).1 2 last steps⟩

end Lc3
