import Lc3.Proofs.Keyboard

/-!
Walks over strings. A walk reads from an address on until it meets a zero word, over all addresses
round and round if need be; what ends it at last is the keyboard, which has no more lines to give.
-/

namespace Lc3

/-- A walk from an address: how many reads it makes, the words before the zero, what interrupted it
if anything did, and the machine after it. -/
inductive Walk : Machine → Word → Nat → List Word → Option Interrupt → Machine → Prop
  | stop {machine address after} : Exec.read address machine = .ok 0 after →
      Walk machine address 1 [] none after
  | interrupted {machine address interrupt after} :
      Exec.read address machine = .error interrupt after →
      Walk machine address 1 [] (some interrupt) after
  | next {machine address word between reads words interrupt after} :
      Exec.read address machine = .ok word between → word ≠ 0 →
      Walk between (address + 1) reads words interrupt after →
      Walk machine address (reads + 1) (word :: words) interrupt after

theorem Exec.readString_apply (address : Word) (machine : Machine) :
    readString address machine = readWordsOnto [] (stringFuel machine) address machine := by
  rw [readString, bind_apply, view_apply]

namespace Walk

/-- What a walk gives to whoever asked for the string. -/
def result (words : List Word) (interrupt : Option Interrupt) (after : Machine) :
    EStateM.Result Interrupt Machine (List Word) :=
  match interrupt with
  | none => .ok words after
  | some interrupt => .error interrupt after

theorem readWordsOnto_eq {machine : Machine} {address : Word} {reads : Nat} {words : List Word}
    {interrupt : Option Interrupt} {after : Machine}
    (walk : Walk machine address reads words interrupt after) :
    ∀ (seen : List Word) (fuel : Nat), reads ≤ fuel →
      Exec.readWordsOnto seen fuel address machine =
        result (seen.reverse ++ words) interrupt after := by
  induction walk with
  | stop ended =>
      intro seen fuel enough
      obtain ⟨rest, rfl⟩ := Nat.exists_eq_add_of_le' enough
      simp [Exec.readWordsOnto, Exec.bind_apply, ended, result]
  | interrupted failed =>
      intro seen fuel enough
      obtain ⟨rest, rfl⟩ := Nat.exists_eq_add_of_le' enough
      simp [Exec.readWordsOnto, Exec.bind_apply, failed, result]
  | @next _ _ word _ _ _ _ _ found nonzero _ ih =>
      intro seen fuel enough
      obtain ⟨rest, rfl⟩ := Nat.exists_eq_add_of_le' (Nat.le_trans (Nat.le_add_left 1 _) enough)
      have onward := ih (word :: seen) rest (by omega)
      simp only [Exec.readWordsOnto, Exec.bind_apply, found, if_neg nonzero, onward,
        List.reverse_cons, List.append_assoc, List.singleton_append]

theorem registers_eq {machine : Machine} {address : Word} {reads : Nat} {words : List Word}
    {after : Machine} (walk : Walk machine address reads words none after) :
    after.registers = machine.registers := by
  generalize ended : (none : Option Interrupt) = interrupt at walk
  induction walk with
  | stop found => exact Exec.registers_of_read found
  | interrupted => cases ended
  | next found _ _ ih => exact (ih ended).trans (Exec.registers_of_read found)

theorem deterministic {machine : Machine} {address : Word} {reads reads' : Nat}
    {words words' : List Word} {interrupt interrupt' : Option Interrupt} {after after' : Machine}
    (walk : Walk machine address reads words interrupt after)
    (other : Walk machine address reads' words' interrupt' after') :
    reads = reads' ∧ words = words' ∧ interrupt = interrupt' ∧ after = after' := by
  induction walk generalizing reads' words' interrupt' after' with
  | stop ended => cases other <;> simp_all
  | interrupted failed => cases other <;> simp_all
  | next found nonzero _ ih =>
      cases other with
      | stop ended => simp_all
      | interrupted failed => simp_all
      | next found' _ rest =>
          rw [found, EStateM.Result.ok.injEq] at found'
          obtain ⟨rfl, rfl⟩ := found'
          obtain ⟨rfl, rfl, rfl, rfl⟩ := ih rest
          exact ⟨rfl, rfl, rfl, rfl⟩

end Walk

/-! Every read of the status register that finds a character uses up some of the input. -/

theorem Source.remaining_readLine_lt {source : Source} {line : String}
    (taken : source.readLine.1 = .line line) (char : line.toList ≠ []) :
    source.readLine.2.remaining < source.remaining := by
  cases source with
  | script entries =>
      cases entries with
      | nil =>
          simp only [readLine, Reading.line.injEq] at taken
          subst line
          exact absurd rfl char
      | cons entry entries => simp [readLine, remaining]
  | undecodable => simp [readLine] at taken
  | stream text ending =>
      have split := List.takeWhile_append_dropWhile (p := (· != '\n')) (l := text)
      have length := congrArg List.length split
      rw [List.length_append] at length
      have kept : stripLineEnd (text.takeWhile (· != '\n')) ≠ [] →
          0 < (text.takeWhile (· != '\n')).length := by
        intro nonempty
        exact List.length_pos_iff.mpr fun none => nonempty (by rw [none]; rfl)
      simp only [readLine] at taken ⊢
      split
      · rename_i rest ending newline
        simp only [newline, List.length_cons, remaining] at length ⊢
        omega
      · rename_i ended
        simp only [ended, Reading.line.injEq] at taken
        subst line
        have used := kept (by simpa using char)
        simp only [remaining, List.length_nil]
        omega
      · rename_i ended
        simp [ended] at taken

theorem Terminal.remaining_readChar_lt {terminal after : Terminal} {code : Word}
    (found : Terminal.readChar terminal = .ok (some code) after) :
    after.console.source.remaining < terminal.console.source.remaining := by
  have shorter := @Source.remaining_readLine_lt terminal.console.source
  have reads := terminal.readsChar
  rw [found] at reads
  generalize char : some code = first at reads
  cases reads with
  | absorbed => cases char
  | @line line console taken =>
      obtain ⟨read, rfl⟩ := Prod.mk.inj taken
      refine shorter read fun empty => ?_
      simp [firstCode, empty] at char

/-- How many reads from an address on can still meet a word other than zero. -/
def Machine.patience (machine : Machine) (address : Word) : Nat :=
  (wordOf machine.keyboard.status - address).toNat +
    65536 * machine.terminal.console.source.remaining

theorem Exec.patience_read_lt {machine between : Machine} {address word : Word}
    (reachable : machine.keyboard.Reachable)
    (found : Exec.read address machine = .ok word between) (nonzero : word ≠ 0) :
    between.keyboard = machine.keyboard ∧
      between.patience (address + 1) < machine.patience address := by
  have place := Keyboard.isStatus_iff reachable address
  by_cases status : address = wordOf machine.keyboard.status
  · rw [Exec.read_of_status (place.mpr status)] at found
    cases typed : Terminal.readChar machine.terminal with
    | error fault terminal => simp [typed] at found
    | ok char terminal =>
        simp only [typed, EStateM.Result.ok.injEq] at found
        obtain ⟨shown, rfl⟩ := found
        refine ⟨rfl, ?_⟩
        cases char with
        | none =>
            rw [status] at shown
            simp only [Keyboard.display, Option.getD_none, if_pos, Memory.get_set_self] at shown
            exact absurd shown.symm nonzero
        | some code =>
            -- The way round to the register is shorter than what the line weighs.
            have used := Terminal.remaining_readChar_lt typed
            have bound := (wordOf machine.keyboard.status - (address + 1)).isLt
            simp only [Machine.patience]
            omega
  · have plain := (Keyboard.isStatus_eq_false_iff reachable address).mpr status
    rw [Exec.read_of_plain plain, EStateM.Result.ok.injEq] at found
    obtain ⟨_, rfl⟩ := found
    refine ⟨rfl, ?_⟩
    have apart : wordOf machine.keyboard.status - address ≠ 0 :=
      fun same => status (BitVec.sub_eq_iff_eq_add.mp same ▸ by simp)
    have closer : (wordOf machine.keyboard.status - (address + 1)).toNat <
        (wordOf machine.keyboard.status - address).toNat := by
      bv_omega
    simp only [Machine.patience]
    omega

namespace Walk

theorem reads_le {machine : Machine} {address : Word} {reads : Nat} {words : List Word}
    {interrupt : Option Interrupt} {after : Machine} (reachable : machine.keyboard.Reachable)
    (walk : Walk machine address reads words interrupt after) :
    reads ≤ machine.patience address + 1 := by
  induction walk with
  | stop => omega
  | interrupted => omega
  | next found nonzero _ ih =>
      obtain ⟨keyboard, smaller⟩ := Exec.patience_read_lt reachable found nonzero
      have rest := ih (keyboard ▸ reachable)
      omega

theorem exists_of_reachable {machine : Machine} (reachable : machine.keyboard.Reachable)
    (address : Word) :
    ∃ reads words interrupt after, Walk machine address reads words interrupt after := by
  generalize left : machine.patience address = patience
  induction patience using Nat.strongRecOn generalizing machine address with
  | ind patience ih =>
      cases found : Exec.read address machine with
      | error interrupt after => exact ⟨1, [], some interrupt, after, .interrupted found⟩
      | ok word between =>
          by_cases zero : word = 0
          · exact ⟨1, [], none, between, .stop (zero ▸ found)⟩
          · obtain ⟨keyboard, smaller⟩ := Exec.patience_read_lt reachable found zero
            obtain ⟨reads, words, interrupt, after, rest⟩ :=
              ih _ (left ▸ smaller) (keyboard ▸ reachable) (address + 1) rfl
            exact ⟨reads + 1, word :: words, interrupt, after, .next found zero rest⟩

theorem readString_eq {machine : Machine} {address : Word} {reads : Nat} {words : List Word}
    {interrupt : Option Interrupt} {after : Machine} (reachable : machine.keyboard.Reachable)
    (walk : Walk machine address reads words interrupt after) :
    Exec.readString address machine = result words interrupt after := by
  have bound := walk.reads_le reachable
  have round := (wordOf machine.keyboard.status - address).isLt
  rw [Exec.readString_apply]
  refine walk.readWordsOnto_eq [] _ ?_
  simp only [Exec.stringFuel, Machine.patience] at bound ⊢
  omega

theorem of_readString {machine : Machine} {address : Word} {words : List Word} {after : Machine}
    (reachable : machine.keyboard.Reachable)
    (ended : Exec.readString address machine = .ok words after) :
    ∃ reads, Walk machine address reads words none after := by
  obtain ⟨reads, read, interrupt, last, walk⟩ := exists_of_reachable reachable address
  rw [walk.readString_eq reachable] at ended
  cases interrupt with
  | some interrupt => simp [result] at ended
  | none =>
      simp only [result, EStateM.Result.ok.injEq] at ended
      obtain ⟨rfl, rfl⟩ := ended
      exact ⟨reads, walk⟩

end Walk

end Lc3
