import Lc3.Proofs.CharacterInput
import Lc3.Proofs.HiddenCells
import Lc3.Proofs.Termination

/-!
The services that print strings. A walk reads words up to the first zero, and what it reads of the
keyboard's registers is what its own polls put there. The text that is printed is made of the words
read, and nothing but the keyboard's registers changes.
-/

namespace Lc3

/-- The reads of a walk, one after the other: what each gives, the machine before it, and how many
come before the one that gives zero. -/
structure WalkReads (machine : Machine) (address : Word) (length : Nat) (value : Nat → Word)
    (state : Nat → Machine) : Prop where
  start : state 0 = machine
  read : ∀ index ≤ length, Exec.read (address + BitVec.ofNat 16 index) (state index) =
    .ok (value index) (state (index + 1))
  nonzero : ∀ index < length, value index ≠ 0
  zero : value length = 0

theorem Walk.exists_reads {machine after : Machine} {address : Word} {reads : Nat}
    {words : List Word} (walk : Walk machine address reads words none after) :
    ∃ value state, WalkReads machine address words.length value state ∧
      words = (List.range words.length).map value ∧ reads = words.length + 1 ∧
      state (words.length + 1) = after := by
  generalize ended : (none : Option Interrupt) = interrupt at walk
  induction walk with
  | interrupted => cases ended
  | @stop machine address after found =>
      refine ⟨fun _ => 0, fun index => index.casesOn machine fun _ => after, ?_, rfl, rfl, rfl⟩
      refine ⟨rfl, ?_, fun _ impossible => absurd impossible (Nat.not_lt_zero _), rfl⟩
      intro index bound
      obtain rfl := Nat.le_zero.mp bound
      rw [add_ofNat_zero]
      exact found
  | @next machine address word between reads words interrupt after found nonzero _ ih =>
      obtain ⟨value, state, rest, same, count, last⟩ := ih ended
      refine ⟨fun index => index.casesOn word value, fun index => index.casesOn machine state,
        ?_, ?_, ?_, last⟩
      · refine ⟨rfl, ?_, ?_, rest.zero⟩
        · intro index bound
          cases index with
          | zero =>
              rw [← rest.start] at found
              rw [add_ofNat_zero]
              exact found
          | succ index =>
              rw [add_ofNat_succ]
              exact rest.read index (Nat.le_of_succ_le_succ bound)
        · intro index bound
          cases index with
          | zero => exact nonzero
          | succ index => exact rest.nonzero index (Nat.lt_of_succ_lt_succ bound)
      · rw [List.length_cons, List.range_succ_eq_map, List.map_cons, List.map_map]
        exact congrArg (word :: ·) same
      · rw [List.length_cons, count]

/-- What the poll at a place of the walk reads. -/
def polledAt (state : Nat → Machine) (index : Nat) : Reading :=
  (state index).terminal.console.readLine.1

/-- The polls of the first so many reads from an address on. -/
def pollsUpTo (keyboard : Keyboard) (address : Word) (count : Nat) : List Nat :=
  (List.range count).filter fun index =>
    address + BitVec.ofNat 16 index = wordOf keyboard.status

theorem pollsUpTo_eq_nil_iff {keyboard : Keyboard} {address : Word} {count : Nat} :
    pollsUpTo keyboard address count = [] ↔
      ∀ index < count, address + BitVec.ofNat 16 index ≠ wordOf keyboard.status := by
  simp [pollsUpTo]

namespace WalkReads

variable {machine : Machine} {address : Word} {length : Nat} {value : Nat → Word}
  {state : Nat → Machine} (reads : WalkReads machine address length value state)

include reads

/-- What every read keeps holds at every place of the walk. -/
theorem invariant (kept : Machine → Prop) (initially : kept machine)
    (onward : ∀ {place word before after}, Exec.read place before = .ok word after →
      kept before → kept after) {index : Nat} (bound : index ≤ length + 1) :
    kept (state index) := by
  induction index with
  | zero => rwa [reads.start]
  | succ index ih =>
      have before := ih (by omega)
      exact onward (reads.read index (by omega)) before

theorem keyboard_eq {index : Nat} (bound : index ≤ length + 1) :
    (state index).keyboard = machine.keyboard :=
  reads.invariant (·.keyboard = machine.keyboard) rfl
    (fun found before => (Exec.keyboard_of_read found).trans before) bound

theorem registers_eq {index : Nat} (bound : index ≤ length + 1) :
    (state index).registers = machine.registers :=
  reads.invariant (·.registers = machine.registers) rfl
    (fun found before => (Exec.registers_of_read found).trans before) bound

/-! What a read gives, and what it leaves behind. -/

variable (proper : machine.keyboard.Proper)

include proper

theorem at_status {index : Nat} (bound : index ≤ length)
    (status : address + BitVec.ofNat 16 index = wordOf machine.keyboard.status) :
    value index = (if (polledAt state index).typed = 0 then 0 else Keyboard.ready) ∧
      (state (index + 1)).memory =
        machine.keyboard.display (state index).memory (polledAt state index).code? ∧
      (state (index + 1)).calls = .read (polledAt state index) :: (state index).calls := by
  have keyboard := reads.keyboard_eq (Nat.le_succ_of_le bound)
  have found := reads.read index bound
  rw [status, ← keyboard] at found
  obtain ⟨given, memory, console⟩ := read_status_of_ok (keyboard ▸ proper) found
  rw [keyboard] at memory
  have calls := Console.calls_readLine (state index).terminal.console
  rw [← console] at calls
  exact ⟨given, memory, calls⟩

theorem at_plain {index : Nat} (bound : index ≤ length)
    (plain : address + BitVec.ofNat 16 index ≠ wordOf machine.keyboard.status) :
    value index = (state index).memory.get (address + BitVec.ofNat 16 index) ∧
      state (index + 1) = state index := by
  have keyboard := reads.keyboard_eq (Nat.le_succ_of_le bound)
  have found := reads.read index bound
  rw [← keyboard] at plain
  rw [Exec.read_of_plain ((Keyboard.isStatus_eq_false_iff
    (keyboard ▸ proper.reachable) _).mpr plain), EStateM.Result.ok.injEq] at found
  exact ⟨found.1.symm, found.2.symm⟩

theorem state_eq {index : Nat} (bound : index ≤ length + 1)
    (clear : ∀ earlier < index,
      address + BitVec.ofNat 16 earlier ≠ wordOf machine.keyboard.status) :
    state index = machine := by
  induction index with
  | zero => exact reads.start
  | succ index ih =>
      have before := ih (by omega) fun earlier less => clear earlier (by omega)
      exact (reads.at_plain proper (by omega) (clear index (by omega))).2.trans before

theorem get_of_ne {index : Nat} (bound : index ≤ length + 1) {cell : Word}
    (status : cell ≠ wordOf machine.keyboard.status) (data : cell ≠ wordOf machine.keyboard.data) :
    (state index).memory.get cell = machine.memory.get cell := by
  induction index with
  | zero => rw [reads.start]
  | succ index ih =>
      have before := ih (by omega)
      by_cases place : address + BitVec.ofNat 16 index = wordOf machine.keyboard.status
      · rw [(reads.at_status proper (by omega) place).2.1,
          Keyboard.get_display_of_ne _ _ _ status data, before]
      · rw [(reads.at_plain proper (by omega) place).2, before]

/-- Behind a poll that found a character, the data register holds it up to the next poll. -/
theorem get_data {poll index : Nat} (bound : index ≤ length + 1) (earlier : poll < index)
    (status : address + BitVec.ofNat 16 poll = wordOf machine.keyboard.status)
    (latest : ∀ between, poll < between → between < index →
      address + BitVec.ofNat 16 between ≠ wordOf machine.keyboard.status)
    (found : (polledAt state poll).typed ≠ 0) :
    (state index).memory.get (wordOf machine.keyboard.data) = (polledAt state poll).typed := by
  induction index with
  | zero => omega
  | succ index ih =>
      by_cases here : poll = index
      · subst here
        rw [(reads.at_status proper (by omega) status).2.1, proper.get_display,
          if_neg proper.words_ne, if_pos ⟨rfl, found⟩]
        rfl
      · have before := ih (by omega) (by omega) fun between after less =>
          latest between after (by omega)
        rw [(reads.at_plain proper (by omega) (latest index (by omega) (by omega))).2, before]

theorem calls_eq {index : Nat} (bound : index ≤ length + 1) :
    (state index).calls =
      (((pollsUpTo machine.keyboard address index).map (polledAt state)).map .read).reverse ++
        machine.calls := by
  induction index with
  | zero => rw [reads.start]; rfl
  | succ index ih =>
      have before := ih (by omega)
      simp only [pollsUpTo] at before ⊢
      rw [List.range_succ, List.filter_append]
      by_cases status : address + BitVec.ofNat 16 index = wordOf machine.keyboard.status
      · rw [(reads.at_status proper (by omega) status).2.2, before]
        simp [status]
      · rw [(reads.at_plain proper (by omega) status).2, before]
        simp [status]

end WalkReads

/-- What the reads from an address on give up to the first zero, told by the machine before them:
a fresh answer at the status register, the character of the latest poll at the data register, and
else what was stored. -/
structure StringAt (machine : Machine) (address : Word) (length : Nat) (value : Nat → Word)
    (polled : Nat → Reading) : Prop where
  fresh : ∀ index ≤ length, address + BitVec.ofNat 16 index = wordOf machine.keyboard.status →
    value index = if (polled index).typed = 0 then 0 else 0x8000
  delivered : ∀ poll index, poll < index → index ≤ length →
    address + BitVec.ofNat 16 poll = wordOf machine.keyboard.status →
    (∀ between, poll < between → between < index →
      address + BitVec.ofNat 16 between ≠ wordOf machine.keyboard.status) →
    address + BitVec.ofNat 16 index = wordOf machine.keyboard.data →
    value index = (polled poll).typed
  stored : ∀ index ≤ length, address + BitVec.ofNat 16 index ≠ wordOf machine.keyboard.status →
    (address + BitVec.ofNat 16 index = wordOf machine.keyboard.data →
      ∀ earlier < index, address + BitVec.ofNat 16 earlier ≠ wordOf machine.keyboard.status) →
    value index = machine.memory.get (address + BitVec.ofNat 16 index)
  nonzero : ∀ index < length, value index ≠ 0
  zero : value length = 0

theorem WalkReads.stringAt {machine : Machine} {address : Word} {length : Nat}
    {value : Nat → Word} {state : Nat → Machine}
    (reads : WalkReads machine address length value state) (proper : machine.keyboard.Proper) :
    StringAt machine address length value (polledAt state) where
  fresh index bound status := (reads.at_status proper bound status).1
  delivered := by
    intro poll index earlier bound status latest data
    have answer := (reads.at_status proper (by omega) status).1
    have found : (polledAt state poll).typed ≠ 0 := by
      intro nothing
      rw [if_pos nothing] at answer
      exact reads.nonzero poll (by omega) answer
    have plain := data ▸ proper.words_ne
    rw [(reads.at_plain proper bound plain).1, data]
    exact reads.get_data proper (by omega) earlier status latest found
  stored := by
    intro index bound plain untouched
    rw [(reads.at_plain proper bound plain).1]
    by_cases data : address + BitVec.ofNat 16 index = wordOf machine.keyboard.data
    · rw [reads.state_eq proper (by omega) (untouched data)]
    · exact reads.get_of_ne proper (by omega) plain data
  nonzero := reads.nonzero
  zero := reads.zero

/-- The service reads so often from the address in R0 on and then prints the text. It calls the
console for the polls among these reads and once for the text, and changes only the keyboard's
registers, and those only if it polls. -/
structure PrintsExactly (service : Service) (machine : Machine) (polls : List Reading)
    (reads : Nat) (text : Text) : Prop where
  effects : Traced (Exec.trap service.vector) machine
    (looksFrom (machine.registers.get 0) reads ++ [.print text])
  calls : ∃ failure,
    Exec.callsOf (Exec.trap service.vector) machine = polls.map .read ++ [.write text failure]
  registers : (Exec.leaves (Exec.trap service.vector) machine).registers = machine.registers
  memory : machine.memory.AgreeOutside
    (fun cell => cell = wordOf machine.keyboard.status ∨ cell = wordOf machine.keyboard.data)
    (Exec.leaves (Exec.trap service.vector) machine).memory
  unpolled : polls = [] →
    (Exec.leaves (Exec.trap service.vector) machine).memory = machine.memory
  ends : (∀ call ∈ Exec.callsOf (Exec.trap service.vector) machine, call.passedOn? = none) →
    ∃ after, Exec.trap service.vector machine = .ok .continuing after

/-- The service prints the string at the address in R0, its characters made of the words so. -/
def Service.PrintsBy (service : Service) (textOf : List Word → Text) : Prop :=
  Exec.trap service.vector =
    (do Exec.print (textOf (← Exec.readString (← Exec.register 0))); return .continuing)

theorem WalkReads.prints {machine after : Machine} {length : Nat} {value : Nat → Word}
    {state : Nat → Machine} {words : List Word} {service : Service} {textOf : List Word → Text}
    (reads : WalkReads machine (machine.registers.get 0) length value state)
    (proper : machine.keyboard.Proper) (printsBy : service.PrintsBy textOf)
    (walk : Walk machine (machine.registers.get 0) (length + 1) words none after)
    (last : state (length + 1) = after) :
    PrintsExactly service machine
      ((pollsUpTo machine.keyboard (machine.registers.get 0) (length + 1)).map (polledAt state))
      (length + 1) (textOf words) := by
  subst last
  have applied := print_string_apply proper.reachable walk textOf
  obtain ⟨last, calls, left, ends⟩ := Exec.print_continuing (textOf words) (state (length + 1))
  have leaves : Exec.leaves (Exec.trap service.vector) machine =
      { state (length + 1) with terminal := last } := by
    rw [printsBy, Exec.leaves, applied]
    exact left
  rw [reads.calls_eq proper (Nat.le_refl _), ← List.cons_append] at calls
  have made := Exec.callsOf_eq ((congrArg Machine.calls leaves).trans calls)
  rw [List.reverse_cons, List.reverse_reverse] at made
  refine ⟨?_, ⟨_, made⟩, ?_, ?_, ?_, ?_⟩
  · rw [printsBy]
    exact .string proper.reachable ⟨_, _, none, _, walk, by rw [if_pos rfl]⟩
  · rw [leaves]
    exact reads.registers_eq (Nat.le_refl _)
  · intro cell shown
    rw [not_or] at shown
    rw [leaves]
    exact reads.get_of_ne proper (Nat.le_refl _) shown.1 shown.2
  · intro unpolled
    have clear := pollsUpTo_eq_nil_iff.mp (List.map_eq_nil_iff.mp unpolled)
    rw [leaves, reads.state_eq proper (Nat.le_refl _) clear]
  · intro absorbed
    rw [made] at absorbed
    rw [printsBy, applied]
    exact ⟨_, ends (absorbed _ (List.mem_append_right _ (List.mem_singleton.mpr rfl)))⟩

theorem Service.puts_printsBy : Service.puts.PrintsBy textOfWords := rfl

theorem Service.putsp_printsBy : Service.putsp.PrintsBy textOfPackedWords := rfl

/-! Strings in memory. -/

/-- The words stand one after the other from the address on, address 0 behind the last one. -/
def Memory.Holds (memory : Memory) (address : Word) (words : List Word) : Prop :=
  ∀ index (inside : index < words.length),
    memory.get (address + BitVec.ofNat 16 index) = words[index]

theorem Memory.holds_cons_iff {memory : Memory} {address word : Word} {words : List Word} :
    memory.Holds address (word :: words) ↔
      memory.get address = word ∧ memory.Holds (address + 1) words := by
  constructor
  · intro holds
    refine ⟨add_ofNat_zero address ▸ holds 0 (Nat.succ_pos _), fun index inside => ?_⟩
    rw [← add_ofNat_succ]
    exact holds (index + 1) (Nat.succ_lt_succ inside)
  · rintro ⟨first, rest⟩ index inside
    cases index with
    | zero => rw [add_ofNat_zero, first]; rfl
    | succ index =>
        rw [add_ofNat_succ]
        exact rest index (Nat.lt_of_succ_lt_succ inside)

/-- A string that does not cover the status register is walked without a call. -/
theorem Walk.of_holds {machine : Machine} (reachable : machine.keyboard.Reachable)
    {address : Word} {words : List Word} (holds : machine.memory.Holds address (words ++ [0]))
    (nonzero : ∀ word ∈ words, word ≠ 0)
    (clear : ∀ index ≤ words.length,
      address + BitVec.ofNat 16 index ≠ wordOf machine.keyboard.status) :
    Walk machine address (words.length + 1) words none machine := by
  induction words generalizing address with
  | nil =>
      have plain := clear 0 (Nat.le_refl 0)
      rw [add_ofNat_zero] at plain
      have read := Exec.read_of_plain ((Keyboard.isStatus_eq_false_iff reachable _).mpr plain)
      rw [(Memory.holds_cons_iff.mp holds).1] at read
      exact .stop read
  | cons word words ih =>
      obtain ⟨first, rest⟩ := Memory.holds_cons_iff.mp holds
      have plain := clear 0 (Nat.zero_le _)
      rw [add_ofNat_zero] at plain
      have read := Exec.read_of_plain ((Keyboard.isStatus_eq_false_iff reachable _).mpr plain)
      rw [first] at read
      refine .next read (nonzero word List.mem_cons_self) (ih rest ?_ ?_)
      · exact fun later member => nonzero later (List.mem_cons_of_mem word member)
      · intro index bound
        rw [← add_ofNat_succ]
        exact clear (index + 1) (Nat.succ_le_succ bound)

/-! Bytes packed into words, two to a word. -/

def charOfByte (byte : UInt8) : Char := Char.ofNat byte.toNat

/-- The low byte of a word comes first; a last byte without a partner has zero above it. -/
def packBytes : List UInt8 → List Word
  | low :: high :: rest => Image.pair high low :: packBytes rest
  | [low] => [Image.pair 0 low]
  | [] => []

theorem packedChars_pair (high low : UInt8) :
    packedChars (Image.pair high low) =
      if high = 0 then [charOfByte low] else [charOfByte low, charOfByte high] := by
  have lowBound := low.toNat_lt
  have lower : (high.toNat * 256 + low.toNat) % 256 = low.toNat := by omega
  have upper : (high.toNat * 256 + low.toNat) / 256 = high.toNat := by omega
  have zero : high.toNat = 0 ↔ high = 0 := UInt8.toNat_inj (b := 0)
  simp only [packedChars, Image.toNat_pair, lower, upper, zero, charOfByte]

theorem pair_ne_zero {high low : UInt8} (nonzero : low ≠ 0) : Image.pair high low ≠ 0 := by
  intro zero
  have sum := Image.toNat_pair high low
  rw [zero] at sum
  change 0 = _ at sum
  exact nonzero (UInt8.toNat_inj.mp (show low.toNat = 0 by omega))

theorem ne_zero_of_mem_packBytes {bytes : List UInt8} (nonzero : ∀ byte ∈ bytes, byte ≠ 0) :
    ∀ word ∈ packBytes bytes, word ≠ 0 := by
  induction bytes using packBytes.induct with
  | case1 low high rest ih =>
      intro word member
      rcases List.mem_cons.mp member with rfl | later
      · exact pair_ne_zero (nonzero low (by simp))
      · exact ih (fun byte inside => nonzero byte (by simp [inside])) word later
  | case2 low =>
      intro word member
      rw [List.mem_singleton.mp member]
      exact pair_ne_zero (nonzero low (by simp))
  | case3 => exact fun _ impossible => absurd impossible List.not_mem_nil

theorem flatMap_packedChars_packBytes {bytes : List UInt8} (nonzero : ∀ byte ∈ bytes, byte ≠ 0) :
    (packBytes bytes).flatMap packedChars = bytes.map charOfByte := by
  induction bytes using packBytes.induct with
  | case1 low high rest ih =>
      have later := ih fun byte inside => nonzero byte (by simp [inside])
      rw [packBytes, List.flatMap_cons, packedChars_pair, if_neg (nonzero high (by simp)), later]
      rfl
  | case2 low => rw [packBytes, List.flatMap_singleton, packedChars_pair, if_pos rfl]; rfl
  | case3 => rfl

theorem textOfPackedWords_of_small {words : List Word} (small : ∀ word ∈ words, word.toNat < 256) :
    textOfPackedWords words = textOfWords words := by
  have single : ∀ word ∈ words, packedChars word = [charOf word] := by
    intro word member
    have bound := small word member
    have valid : word.toNat.isValidChar := Or.inl (by omega)
    rw [packedChars, if_pos (Nat.div_eq_of_lt bound), Nat.mod_eq_of_lt bound,
      charOf_of_valid valid]
  rw [textOfPackedWords, textOfWords, List.flatMap_def, List.map_congr_left single,
    ← List.flatMap_def, ← List.map_eq_flatMap]

theorem packedChars_eq (word : Word) :
    packedChars word = Char.ofNat (word.toNat % 256) ::
      if word.toNat / 256 = 0 then [] else [Char.ofNat (word.toNat / 256)] := by
  by_cases single : word.toNat / 256 = 0 <;> simp [packedChars, single]

/-- Both services that print strings read up to the first zero and no further, and print just the
characters of the words read, also where the walk passes the keyboard or the last address. -/
theorem string_services_print_exactly {machine : Machine} (proper : machine.keyboard.Proper) :
    let address := machine.registers.get 0
    ((∀ fault after, Exec.readString address machine ≠ .error (.fault fault) after) →
      ∃ length value polled, StringAt machine address length value polled ∧
        let words := (List.range length).map value
        let polls := (pollsUpTo machine.keyboard address (length + 1)).map polled
        PrintsExactly .puts machine polls (length + 1) (Text.ofChars (words.map charOf)) ∧
        PrintsExactly .putsp machine polls (length + 1)
          (Text.ofChars (words.flatMap fun word =>
            Char.ofNat (word.toNat % 256) ::
              if word.toNat / 256 = 0 then [] else [Char.ofNat (word.toNat / 256)])) ∧
        ((∀ word ∈ words, word.toNat < 256) →
          PrintsExactly .putsp machine polls (length + 1) (Text.ofChars (words.map charOf)))) ∧
    ∀ bytes : List UInt8, (∀ byte ∈ bytes, byte ≠ 0) →
      machine.memory.Holds address (packBytes bytes ++ [0]) →
      (∀ index ≤ (packBytes bytes).length,
        address + BitVec.ofNat 16 index ≠ wordOf machine.keyboard.status) →
      PrintsExactly .putsp machine [] ((packBytes bytes).length + 1)
        (Text.ofChars (bytes.map charOfByte)) := by
  intro address
  constructor
  · intro walked
    obtain ⟨count, words, interrupt, after, walk⟩ :=
      Walk.exists_of_reachable proper.reachable address
    cases interrupt with
    | some interrupt =>
        obtain ⟨fault, rfl⟩ := walk.interrupt_is_fault
        exact absurd (walk.readString_eq proper.reachable) (walked fault after)
    | none =>
        obtain ⟨value, state, reads, same, rfl, last⟩ := walk.exists_reads
        refine ⟨words.length, value, polledAt state, reads.stringAt proper, ?_⟩
        intro given polls
        have string : given = words := same.symm
        have puts := reads.prints proper Service.puts_printsBy walk last
        have putsp := reads.prints proper Service.putsp_printsBy walk last
        rw [string, ← funext packedChars_eq]
        refine ⟨puts, putsp, fun small => ?_⟩
        rwa [textOfPackedWords_of_small small] at putsp
  · intro bytes nonzero holds clear
    have walk := Walk.of_holds proper.reachable holds (ne_zero_of_mem_packBytes nonzero) clear
    obtain ⟨value, state, reads, _, _, last⟩ := walk.exists_reads
    have putsp := reads.prints proper Service.putsp_printsBy walk last
    have unpolled : pollsUpTo machine.keyboard (machine.registers.get 0)
        ((packBytes bytes).length + 1) = [] :=
      pollsUpTo_eq_nil_iff.mpr fun index less => clear index (Nat.le_of_lt_succ less)
    rwa [unpolled, textOfPackedWords, flatMap_packedChars_packBytes nonzero] at putsp

/-- A machine with three bytes packed at the last address and the first two. -/
def Machine.greeting : Machine :=
  (Machine.load ⟨0xFFFF, [0x4948, 0x0021, 0]⟩ .standard none defaultHaltMessage
    (.ofSourceSink (.script []) .full)).assign 0 0xFFFF

theorem packed_greeting_is_printed :
    Machine.greeting.keyboard.Proper ∧
    Machine.greeting.memory.Holds 0xFFFF (packBytes [0x48, 0x49, 0x21] ++ [0]) ∧
    PrintsExactly .putsp .greeting [] 3 (Text.ofString "HI!") ∧
    (∃ after, Exec.readString 0xFFFF .greeting = .ok [0x4948, 0x0021] after) ∧
    ∃ length value polled, StringAt .greeting 0xFFFF length value polled ∧
      PrintsExactly .puts .greeting
        ((pollsUpTo .standard 0xFFFF (length + 1)).map polled) (length + 1)
        (Text.ofChars (((List.range length).map value).map charOf)) := by
  have proper : Machine.greeting.keyboard.Proper := Keyboard.standard_proper
  have holds : Machine.greeting.memory.Holds 0xFFFF (packBytes [0x48, 0x49, 0x21] ++ [0]) := by
    simp only [packBytes, List.cons_append, List.nil_append, Memory.holds_cons_iff]
    simp [Machine.greeting, Machine.assign, Machine.load, Memory.place, Memory.get_set,
      Memory.Holds, Image.pair]
  have nonzero : ∀ byte ∈ [(0x48 : UInt8), 0x49, 0x21], byte ≠ 0 := by simp
  have clear : ∀ index ≤ 2, (0xFFFF : Word) + BitVec.ofNat 16 index ≠ 0xFE00 := by
    intro index bound
    have place : index = 0 ∨ index = 1 ∨ index = 2 := by omega
    rcases place with rfl | rfl | rfl <;> decide
  have walk := Walk.of_holds proper.reachable holds (ne_zero_of_mem_packBytes nonzero) clear
  have read := walk.readString_eq proper.reachable
  obtain ⟨printed, packed⟩ := string_services_print_exactly proper
  obtain ⟨length, value, polled, string, puts, _⟩ := printed (by
    intro fault after failed
    cases failed.symm.trans read)
  exact ⟨proper, holds, packed [0x48, 0x49, 0x21] nonzero holds clear, ⟨_, read⟩, length, value,
    polled, string, puts⟩

end Lc3
