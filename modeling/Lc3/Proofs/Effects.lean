import Lc3.Proofs.InstructionTable

/-!
What an action does outside of the registers, in order: the cells it looks at, the lines it takes
and the texts it prints. The table of effects says this for every instruction word; a step that is
interrupted has the effects up to there.
-/

namespace Lc3

inductive Effect
  /-- A cell is read. -/
  | look (address : Word)
  /-- A line of input is asked for. -/
  | take
  | print (text : Text)
  deriving DecidableEq

/-- The looks of a walk that makes so many reads from an address on. -/
def looksFrom (address : Word) (reads : Nat) : List Effect :=
  (List.range reads).map fun index => .look (address + BitVec.ofNat 16 index)

theorem add_ofNat_zero (address : Word) : address + BitVec.ofNat 16 0 = address :=
  BitVec.add_zero address

theorem add_ofNat_succ (address : Word) (index : Nat) :
    address + BitVec.ofNat 16 (index + 1) = address + 1 + BitVec.ofNat 16 index := by
  rw [BitVec.ofNat_add, BitVec.add_assoc, BitVec.add_comm (BitVec.ofNat 16 index)]
  rfl

theorem looksFrom_succ (address : Word) (reads : Nat) :
    looksFrom address (reads + 1) = .look address :: looksFrom (address + 1) reads := by
  simp only [looksFrom, List.range_succ_eq_map, List.map_cons, List.map_map]
  congr 1
  · simp
  · exact List.map_congr_left fun index _ => congrArg Effect.look (add_ofNat_succ address index)

theorem looksFrom_one (address : Word) : looksFrom address 1 = [.look address] :=
  looksFrom_succ address 0

theorem exists_of_look_mem {address first : Word} {reads : Nat}
    (member : .look address ∈ looksFrom first reads) :
    ∃ index < reads, first + BitVec.ofNat 16 index = address := by
  obtain ⟨index, less, same⟩ := List.mem_map.mp member
  exact ⟨index, List.mem_range.mp less, Effect.look.inj same⟩

namespace Machine

/-- The looks of an access through a pointer at an address. -/
def pointerLooks (machine : Machine) (address : Word) : List Effect :=
  .look address :: match Exec.read address machine with
    | .ok pointer _ => [.look pointer]
    | .error _ _ => []

/-- What is printed of a character that was asked for. -/
def echo (machine : Machine) : List Effect :=
  match Terminal.readChar machine.terminal with
  | .ok char _ =>
    if char.getD 0 = 0 then [] else [.print (Text.ofChars [charOf (char.getD 0), '\n'])]
  | .error _ _ => []

end Machine

/-- A walk from the address in R0, and the print of its string unless the walk is interrupted. -/
def PrintsString (textOf : List Word → Text) (machine : Machine) (effects : List Effect) : Prop :=
  ∃ reads words interrupt after,
    Walk machine (machine.registers.get 0) reads words interrupt after ∧
    effects = looksFrom (machine.registers.get 0) reads ++
      if interrupt = none then [.print (textOf words)] else []

/-- The effects of the trap with a number. -/
def TrapEffects (vector : Nat) (machine : Machine) (effects : List Effect) : Prop :=
  match vector with
  | 0x20 => effects = [.take]
  | 0x21 => effects = [.print (Text.ofChars [charOf (machine.registers.get 0), '\n'])]
  | 0x22 => PrintsString textOfWords machine effects
  | 0x23 => effects = .take :: machine.echo
  | 0x24 => PrintsString textOfPackedWords machine effects
  | 0x25 => effects = [.print (machine.haltMessage ++ Text.ofString "\n")]
  | _ => effects = []

/-- The effects of a word's row on a machine whose program counter stands behind it already. -/
def RowEffects (word : Word) (machine : Machine) (effects : List Effect) : Prop :=
  match bitsAt word 12 4 with
  | 2 => effects = [.look (machine.ahead (signedBits word 9))]
  | 6 => effects = [.look (machine.beyond (registerAt word 6) (signedBits word 6))]
  | 10 => effects = machine.pointerLooks (machine.ahead (signedBits word 9))
  | 11 => effects = [.look (machine.ahead (signedBits word 9))]
  | 15 => TrapEffects (bitsAt word 0 8) machine effects
  | _ => effects = []

/-- The effects of a step: a look at the instruction, then those of its row. -/
inductive StepEffects : Machine → List Effect → Prop
  | ended {machine} : machine.state ≠ .continuing → StepEffects machine []
  | interrupted {machine interrupt after} : machine.state = .continuing →
      Exec.read machine.registers.pc machine = .error interrupt after →
      StepEffects machine [.look machine.registers.pc]
  | fetched {machine word between effects} : machine.state = .continuing →
      Exec.read machine.registers.pc machine = .ok word between →
      RowEffects word (between.goTo (machine.ahead 1)) effects →
      StepEffects machine (.look machine.registers.pc :: effects)

/-! Every step has effects. -/

theorem PrintsString.exists_effects {machine : Machine} (reachable : machine.keyboard.Reachable)
    (textOf : List Word → Text) : ∃ effects, PrintsString textOf machine effects := by
  obtain ⟨reads, words, interrupt, after, walk⟩ :=
    Walk.exists_of_reachable reachable (machine.registers.get 0)
  exact ⟨_, reads, words, interrupt, after, walk, rfl⟩

theorem TrapEffects.exists_effects {machine : Machine} (reachable : machine.keyboard.Reachable)
    (vector : Nat) : ∃ effects, TrapEffects vector machine effects := by
  unfold TrapEffects
  split
  · exact ⟨_, rfl⟩
  · exact ⟨_, rfl⟩
  · exact PrintsString.exists_effects reachable textOfWords
  · exact ⟨_, rfl⟩
  · exact PrintsString.exists_effects reachable textOfPackedWords
  · exact ⟨_, rfl⟩
  · exact ⟨_, rfl⟩

theorem RowEffects.exists_effects {machine : Machine} (reachable : machine.keyboard.Reachable)
    (word : Word) : ∃ effects, RowEffects word machine effects := by
  unfold RowEffects
  split
  · exact ⟨_, rfl⟩
  · exact ⟨_, rfl⟩
  · exact ⟨_, rfl⟩
  · exact ⟨_, rfl⟩
  · exact TrapEffects.exists_effects reachable _
  · exact ⟨_, rfl⟩

theorem Exec.keyboard_of_read {machine after : Machine} {address value : Word}
    (found : read address machine = .ok value after) : after.keyboard = machine.keyboard := by
  obtain ⟨_, _, _, rfl⟩ := (Built.read address).frame found
  rfl

theorem StepEffects.exists_effects {machine : Machine} (reachable : machine.keyboard.Reachable) :
    ∃ effects, StepEffects machine effects := by
  by_cases working : machine.state = .continuing
  · cases found : Exec.read machine.registers.pc machine with
    | error interrupt after => exact ⟨_, .interrupted working found⟩
    | ok word between =>
        have again : (between.goTo (machine.ahead 1)).keyboard.Reachable :=
          Exec.keyboard_of_read found ▸ reachable
        obtain ⟨effects, row⟩ := RowEffects.exists_effects again word
        exact ⟨_, .fetched working found row⟩
  · exact ⟨[], .ended working⟩

/-! The effects of an action are those of its parts, one after the other. -/

inductive Traced : {α : Type} → Exec α → Machine → List Effect → Prop
  | pure {α : Type} (value : α) (machine : Machine) : Traced (pure value) machine []
  | bind {α β : Type} {action : Exec α} {next : α → Exec β} {machine between : Machine} {value : α}
      {effects later : List Effect} :
      Traced action machine effects → action machine = .ok value between →
      Traced (next value) between later → Traced (action >>= next) machine (effects ++ later)
  | stopped {α β : Type} {action : Exec α} {next : α → Exec β} {machine after : Machine}
      {interrupt : Interrupt} {effects : List Effect} :
      Traced action machine effects → action machine = .error interrupt after →
      Traced (action >>= next) machine effects
  | inspect {α : Type} (project : Machine → α)
      (blind : ∀ machine memory terminal stepLimit,
        project { machine with memory, terminal, stepLimit } = project machine)
      (machine : Machine) : Traced (Exec.view project) machine []
  | registers (change : Registers → Registers) (machine : Machine) :
      Traced (Exec.updateRegisters change) machine []
  | write (address value : Word) (machine : Machine) : Traced (Exec.write address value) machine []
  | note (message : Message) (machine : Machine) : Traced (Exec.note message) machine []
  | look (address : Word) (machine : Machine) : Traced (Exec.read address) machine [.look address]
  | take (machine : Machine) : Traced (Exec.atTerminal Terminal.readChar) machine [.take]
  | print (text : Text) (machine : Machine) : Traced (Exec.print text) machine [.print text]
  | walk {machine : Machine} {address : Word} {reads : Nat} {words : List Word}
      {interrupt : Option Interrupt} {after : Machine} :
      Walk machine address reads words interrupt after →
      Traced (Exec.readString address) machine (looksFrom address reads)

namespace Traced

variable {machine : Machine} {effects : List Effect}

theorem before_silent {action : Exec α} {next : α → Exec β}
    (first : Traced action machine effects)
    (rest : ∀ value between, Traced (next value) between []) :
    Traced (action >>= next) machine effects := by
  cases done : action machine with
  | error interrupt after => exact first.stopped done
  | ok value between =>
      have both := first.bind done (rest value between)
      rwa [List.append_nil] at both

theorem pc (machine : Machine) : Traced Exec.pc machine [] :=
  .inspect _ (fun _ _ _ _ => rfl) machine

theorem register (name : Register) (machine : Machine) : Traced (Exec.register name) machine [] :=
  .inspect _ (fun _ _ _ _ => rfl) machine

theorem relative (offset : BitVec n) (machine : Machine) :
    Traced (Exec.relative offset) machine [] :=
  (pc machine).before_silent fun _ => .pure _

theorem based (base : Register) (offset : BitVec 6) (machine : Machine) :
    Traced (Exec.based base offset) machine [] :=
  (register base machine).before_silent fun _ => .pure _

theorem operand (second : Operand) (machine : Machine) : Traced (Exec.operand second) machine [] :=
  match second with
  | .register source => register source machine
  | .immediate _ => .pure _ machine

/-- The end of an instruction with a result. -/
theorem received (name : Register) (value : Word) (machine : Machine) :
    Traced (do Exec.load name value; return Outcome.continuing) machine [] :=
  before_silent (.registers _ machine) fun _ => .pure _

theorem combined (name source : Register) (second : Operand) (operation : Word → Word → Word)
    (machine : Machine) :
    Traced (do
      Exec.load name (operation (← Exec.register source) (← Exec.operand second))
      return Outcome.continuing) machine [] :=
  (register source machine).before_silent fun _ between =>
    (operand second between).before_silent fun _ => received name _

/-- An instruction that loads from the address which it locates. -/
theorem loaded (name : Register) {locate : Exec Word} {address : Word}
    (silent : Traced locate machine []) (located : locate machine = .ok address machine) :
    Traced (do Exec.load name (← Exec.read (← locate)); return Outcome.continuing) machine
      [.look address] :=
  silent.bind located ((look address machine).before_silent (received name))

theorem jumped (target : Word) (machine : Machine) :
    Traced (do Exec.jump target; return Outcome.continuing) machine [] :=
  before_silent (.registers _ machine) fun _ => .pure _

theorem branch (mask : BitVec 3) (offset : BitVec 9) (machine : Machine) :
    Traced (Exec.execute (.branch mask offset)) machine [] := by
  refine bind (.inspect _ (fun _ _ _ _ => rfl) machine) rfl ?_
  split
  · exact (relative offset machine).before_silent jumped
  · exact .pure _ machine

/-- Both calls leave the return address behind before they find out where to go. -/
theorem called {locate : Exec Word} (silent : ∀ machine, Traced locate machine [])
    (machine : Machine) :
    Traced (do
      Exec.setRegister Register.link (← Exec.pc)
      Exec.jump (← locate)
      return Outcome.continuing) machine [] :=
  (pc machine).before_silent fun _ between =>
    before_silent (.registers _ between) fun _ linked => (silent linked).before_silent jumped

theorem stored (source : Register) (address : Word) (machine : Machine) :
    Traced (do Exec.write address (← Exec.register source); return Outcome.continuing)
      machine [] :=
  (register source machine).before_silent fun _ between =>
    before_silent (.write _ _ between) fun _ => .pure _

theorem readCharacter (machine : Machine) : Traced Exec.readCharacter machine [.take] :=
  (take machine).before_silent fun _ between =>
    before_silent (.registers _ between) fun _ => .pure _

theorem printed (text : Text) (machine : Machine) :
    Traced (do Exec.print text; return Outcome.continuing) machine [.print text] :=
  (print text machine).before_silent fun _ => .pure _

theorem getc (machine : Machine) : Traced (Exec.serve .getc) machine [.take] := by
  change Traced ((Exec.readCharacter >>= fun _ => Pure.pure ()) >>= fun _ =>
    Pure.pure Outcome.continuing) machine [.take]
  exact ((readCharacter machine).before_silent fun _ between => .pure () between).before_silent
    fun _ between => .pure Outcome.continuing between

theorem out (machine : Machine) :
    Traced (Exec.serve .out) machine
      [.print (Text.ofChars [charOf (machine.registers.get 0), '\n'])] :=
  (register 0 machine).bind rfl (printed _ machine)

theorem input (machine : Machine) :
    Traced (Exec.serve .input) machine (.take :: machine.echo) := by
  have asked := readCharacter machine
  unfold Machine.echo
  cases found : Terminal.readChar machine.terminal with
  | error fault terminal =>
      have failed : Exec.readCharacter machine =
          .error (.fault fault) { machine with terminal } := by
        simp only [Exec.readCharacter, Exec.bind_apply, Exec.atTerminal_apply, found]
      exact asked.stopped failed
  | ok char terminal =>
      have delivered := readCharacter_eq_ok_iff.mpr ⟨char, terminal, found, rfl, rfl⟩
      simp only []
      by_cases nothing : char.getD 0 = 0
      · rw [if_pos nothing]
        refine asked.bind delivered ?_
        rw [if_neg (not_not_intro nothing)]
        exact .pure _ _
      · rw [if_neg nothing]
        refine asked.bind delivered ?_
        rw [if_pos nothing]
        exact printed _ _

theorem halt (machine : Machine) :
    Traced (Exec.serve .halt) machine
      [.print (machine.haltMessage ++ Text.ofString "\n")] := by
  refine bind (.inspect _ (fun _ _ _ _ => rfl) machine) rfl ?_
  refine (print _ machine).before_silent fun _ printed => ?_
  refine before_silent (.inspect _ (fun _ _ _ _ => rfl) printed) fun _ counted => ?_
  exact before_silent (.note _ counted) fun _ => .pure _

theorem string (reachable : machine.keyboard.Reachable) {textOf : List Word → Text}
    (row : PrintsString textOf machine effects) :
    Traced (do
      Exec.print (textOf (← Exec.readString (← Exec.register 0)))
      return Outcome.continuing) machine effects := by
  obtain ⟨reads, words, interrupt, after, walk, rfl⟩ := row
  have walked := walk.readString_eq reachable
  cases interrupt with
  | none =>
      exact (register 0 machine).bind rfl ((Traced.walk walk).bind walked (printed _ after))
  | some interrupt =>
      rw [if_neg nofun, List.append_nil]
      exact (register 0 machine).bind rfl ((Traced.walk walk).stopped walked)

theorem unknown {vector : Int} (unknown : Service.ofVector? vector = none) (machine : Machine) :
    Traced (Exec.trap vector) machine [] := by
  rw [Exec.trap, unknown]
  exact (pc machine).before_silent fun _ counted =>
    before_silent (.note _ counted) fun _ => .pure _

theorem trap (reachable : machine.keyboard.Reachable) {vector : Nat}
    (row : TrapEffects vector machine effects) : Traced (Exec.trap vector) machine effects := by
  unfold TrapEffects at row
  split at row
  · exact row ▸ getc machine
  · exact row ▸ out machine
  · exact string reachable row
  · exact row ▸ input machine
  · exact string reachable row
  · exact row ▸ halt machine
  · rename_i getc out puts input putsp halt
    have apart : vector ≠ 0x20 ∧ vector ≠ 0x21 ∧ vector ≠ 0x22 ∧ vector ≠ 0x23 ∧ vector ≠ 0x24 ∧
        vector ≠ 0x25 := ⟨getc, out, puts, input, putsp, halt⟩
    exact row ▸ unknown ((Service.ofVector?_eq_none_iff vector).mpr (by omega)) machine

theorem exists_trap (reachable : machine.keyboard.Reachable) (vector : Int) :
    ∃ effects, Traced (Exec.trap vector) machine effects := by
  cases found : Service.ofVector? vector with
  | none => exact ⟨[], unknown found machine⟩
  | some service =>
      simp only [Exec.trap, found]
      cases service with
      | getc => exact ⟨_, getc machine⟩
      | out => exact ⟨_, out machine⟩
      | puts =>
          obtain ⟨effects, row⟩ := PrintsString.exists_effects reachable textOfWords
          exact ⟨effects, string reachable row⟩
      | input => exact ⟨_, input machine⟩
      | putsp =>
          obtain ⟨effects, row⟩ := PrintsString.exists_effects reachable textOfPackedWords
          exact ⟨effects, string reachable row⟩
      | halt => exact ⟨_, halt machine⟩

theorem pointed (address : Word) {next : Word → Exec Outcome}
    (rest : ∀ pointer between, Traced (next pointer) between [.look pointer]) :
    Traced (Exec.read address >>= next) machine (machine.pointerLooks address) := by
  unfold Machine.pointerLooks
  cases found : Exec.read address machine with
  | error interrupt after => exact (look address machine).stopped found
  | ok pointer between => exact (look address machine).bind found (rest pointer between)

/-- Every word denotes an instruction with the effects of the word's row. -/
theorem execute (reachable : machine.keyboard.Reachable) {word : Word}
    (row : RowEffects word machine effects) :
    Traced (Exec.execute (Instruction.decode word)) machine effects := by
  have bound : bitsAt word 12 4 < 16 := Nat.mod_lt _ (by decide)
  unfold RowEffects at row
  unfold Instruction.decode Opcode.ofWord
  rw [opcode_eq_bitsAt]
  generalize bitsAt word 12 4 = opcode at bound row
  match opcode, bound with
  | 0, _ => exact row ▸ branch _ _ machine
  | 1, _ => exact row ▸ combined _ _ _ (· + ·) machine
  | 2, _ => exact row ▸ loaded _ (relative _ machine) (relative_offset9 word machine)
  | 3, _ => exact row ▸ (relative _ machine).before_silent (stored _)
  | 4, _ =>
      obtain rfl : effects = [] := row
      simp only []
      split
      · exact called (relative _) machine
      · exact called (register _) machine
  | 5, _ => exact row ▸ combined _ _ _ (· &&& ·) machine
  | 6, _ =>
      have base : registerAt word 6 = Field.base word := registerAt_eq word 6
      exact row ▸ loaded _ (based _ _ machine) (base ▸ based_offset6 _ word machine)
  | 7, _ => exact row ▸ (based _ _ machine).before_silent (stored _)
  | 8, _ => exact row ▸ .pure _ machine
  | 9, _ => exact row ▸ (register _ machine).before_silent fun _ => received _ _
  | 10, _ =>
      obtain rfl : effects = machine.pointerLooks (machine.ahead (signedBits word 9)) := row
      exact (relative _ machine).bind (relative_offset9 word machine)
        (pointed _ fun pointer between => (look pointer between).before_silent (received _))
  | 11, _ =>
      obtain rfl : effects = [.look (machine.ahead (signedBits word 9))] := row
      exact (relative _ machine).bind (relative_offset9 word machine)
        ((look _ machine).before_silent (stored _))
  | 12, _ => exact row ▸ (register _ machine).before_silent jumped
  | 13, _ => exact row ▸ .pure _ machine
  | 14, _ => exact row ▸ (relative _ machine).before_silent (received _)
  | 15, _ =>
      have vector : (Field.vector word).toNat = bitsAt word 0 8 := (bitsAt_eq_toNat word 0 8).symm
      change Traced (Exec.trap (Field.vector word).toNat) machine effects
      rw [vector]
      exact trap reachable row
  | opcode + 16, beyond => omega

theorem fetch (machine : Machine) :
    Traced Exec.fetch machine [.look machine.registers.pc] :=
  (pc machine).bind rfl ((look _ machine).before_silent fun _ between =>
    before_silent (.registers _ between) fun _ => .pure _)

theorem work (reachable : machine.keyboard.Reachable) (working : machine.state = .continuing)
    (stepped : StepEffects machine effects) : Traced Exec.work machine effects := by
  cases stepped with
  | ended ended => exact absurd working ended
  | @interrupted interrupt after _ failed =>
      have stopped : Exec.fetch machine = .error interrupt after := by
        simp only [Exec.fetch, Exec.bind_apply, Exec.pc, Exec.view_apply, failed]
      exact (fetch machine).stopped stopped
  | @fetched word between effects _ found row =>
      have next : machine.registers.pc + 1 = machine.ahead 1 := add_wordOf machine.registers.pc 1
      have done : Exec.fetch machine =
          .ok (Instruction.decode word) (between.goTo (machine.ahead 1)) := by
        simp only [Exec.fetch, Exec.bind_apply, Exec.pc, Exec.view_apply, found, next]
        rfl
      have again : (between.goTo (machine.ahead 1)).keyboard.Reachable :=
        Exec.keyboard_of_read found ▸ reachable
      exact (fetch machine).bind done (execute again row)

end Traced

end Lc3
