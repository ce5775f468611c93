import Lc3.Proofs.CharacterInput
import Lc3.Proofs.Progress

/-!
Memory as it is seen from outside: an array of words with one device in it. Main statement: after
any reads and writes, a cell has what was last stored there, and only reads of the status register
take lines, each just one.
-/

namespace Lc3

inductive Access
  | read (address : Int)
  | write (address value : Int)
  deriving DecidableEq

namespace Access

def request : Access → Request
  | .read address => .read address
  | .write address value => .write address value

/-- Reads of the status register, through whatever number that is congruent to its address. -/
def isPoll (keyboard : Keyboard) : Access → Bool
  | .read address => wordOf address = wordOf keyboard.status
  | .write _ _ => false

@[simp] theorem isPoll_read (keyboard : Keyboard) (address : Int) :
    (read address).isPoll keyboard = decide (wordOf address = wordOf keyboard.status) := rfl

@[simp] theorem isPoll_write (keyboard : Keyboard) (address value : Int) :
    (write address value).isPoll keyboard = false := rfl

end Access

structure Stored where
  cell : Word
  value : Word
  deriving DecidableEq

/-- A poll stores the character that it finds in the data register. -/
def storedByPoll (keyboard : Keyboard) (reading : Reading) : List Stored :=
  if reading.typed = 0 then [] else [⟨wordOf keyboard.data, reading.typed⟩]

/-- What accesses store outside of the status register, in their order, when polls find these
lines. -/
def storedBy (keyboard : Keyboard) : List Reading → List Access → List Stored
  | _, [] => []
  | lines, .write address value :: later =>
    ⟨wordOf address, wordOf value⟩ :: storedBy keyboard lines later
  | lines, .read address :: later =>
    if wordOf address = wordOf keyboard.status then
      storedByPoll keyboard (lines.headD (.line "")) ++ storedBy keyboard lines.tail later
    else storedBy keyboard lines later

/-- The value that was last stored in a cell, or else the initial one. -/
def latestIn (stores : List Stored) (initial cell : Word) : Word :=
  ((stores.reverse.find? (·.cell = cell)).map (·.value)).getD initial

theorem latestIn_append (first later : List Stored) (initial cell : Word) :
    latestIn (first ++ later) initial cell = latestIn later (latestIn first initial cell) cell := by
  simp only [latestIn, List.reverse_append, List.find?_append]
  cases later.reverse.find? (·.cell = cell) <;> rfl

theorem latestIn_singleton (store : Stored) (initial cell : Word) :
    latestIn [store] initial cell = if store.cell = cell then store.value else initial := by
  by_cases here : store.cell = cell <;> simp [latestIn, here]

theorem latestIn_storedByPoll {keyboard : Keyboard} (proper : keyboard.Proper) (reading : Reading)
    (memory : Memory) {cell : Word} (other : cell ≠ wordOf keyboard.status) :
    latestIn (storedByPoll keyboard reading) (memory.get cell) cell =
      (keyboard.display memory reading.code?).get cell := by
  rw [proper.get_display, if_neg other]
  change _ = if cell = wordOf keyboard.data ∧ reading.typed ≠ 0 then reading.typed else _
  by_cases nothing : reading.typed = 0
  · rw [storedByPoll, if_pos nothing, if_neg fun shown => shown.2 nothing]
    rfl
  · rw [storedByPoll, if_neg nothing, latestIn_singleton]
    simp only [nothing, eq_comm (a := wordOf keyboard.data), ne_eq, not_false_eq_true, and_true]

theorem storedBy_append (keyboard : Keyboard) (lines : List Reading) (first later : List Access) :
    storedBy keyboard lines (first ++ later) =
      storedBy keyboard lines first ++
        storedBy keyboard (lines.drop (first.countP (·.isPoll keyboard))) later := by
  induction first generalizing lines with
  | nil => rfl
  | cons access first ih =>
      cases access with
      | write address value =>
          simp [storedBy, ih]
      | read address =>
          by_cases status : wordOf address = wordOf keyboard.status
          · simp [storedBy, status, ih]
          · simp [storedBy, status, ih]

theorem Source.Forgiving.passedOn?_readLine {source : Source} (forgiving : source.Forgiving) :
    (ConsoleCall.read source.readLine.1).passedOn? = none := by
  have passable := forgiving.readLine.1
  cases reading : source.readLine.1 with
  | line text => rfl
  | failure fault => simp [ConsoleCall.passedOn?, passable fault reading]

namespace Exec

variable {machine : Machine} {address : Int}

theorem perform_read_of_ok {value : Word} {after : Machine}
    (read : read (wordOf address) machine = .ok value after) :
    perform (.read address) machine = .ok (.word value) after := by
  rw [perform, bind_apply, read]
  rfl

variable {lines : List Reading} (proper : machine.keyboard.Proper)

include proper

theorem perform_read_plain (plain : wordOf address ≠ wordOf machine.keyboard.status) :
    perform (.read address) machine =
      .ok (.word (machine.memory.get (wordOf address))) machine := by
  exact perform_read_of_ok
    (read_of_plain ((Keyboard.isStatus_eq_false_iff proper.reachable _).mpr plain))

variable (script : machine.terminal.console.source = .script lines)
  (forgiving : (Source.script lines).Forgiving)

include script forgiving

theorem perform_read_status (status : wordOf address = wordOf machine.keyboard.status) :
    let reading := lines.headD (.line "")
    ∃ after, perform (.read address) machine =
        .ok (.word (if reading.typed = 0 then 0 else Keyboard.ready)) after ∧
      after.calls = .read reading :: machine.calls ∧
      after.terminal.console.source = .script lines.tail ∧
      after = { machine with
        terminal := after.terminal
        memory := machine.keyboard.display machine.memory reading.code? } := by
  intro reading
  have readLine := Source.readLine_script lines
  have absorbed := forgiving.passedOn?_readLine
  rw [readLine] at absorbed
  have taken : machine.terminal.console.readLine = (reading, { machine.terminal.console with
      source := .script lines.tail, calls := .read reading :: machine.calls }) := by
    rw [Console.readLine, script, readLine]
    rfl
  obtain ⟨log, read⟩ := read_status_of_absorbed taken proper absorbed
  rw [← status] at read
  exact ⟨_, perform_read_of_ok read, rfl, rfl, rfl⟩

end Exec

/-- What accesses make of a machine whose polls find these lines. -/
structure Accessed (machine : Machine) (lines : List Reading) (accesses : List Access)
    (after : Machine) : Prop where
  rest : after = { machine with memory := after.memory, terminal := after.terminal }
  source : after.terminal.console.source =
    .script (lines.drop (accesses.countP (·.isPoll machine.keyboard)))
  cells : ∀ cell, cell ≠ wordOf machine.keyboard.status →
    after.memory.get cell =
      latestIn (storedBy machine.keyboard lines accesses) (machine.memory.get cell) cell

namespace Accessed

variable {machine between after : Machine} {lines : List Reading}

theorem keyboard_eq {accesses : List Access} (accessed : Accessed machine lines accesses after) :
    after.keyboard = machine.keyboard := by
  rw [accessed.rest]

theorem append {first later : List Access} (before : Accessed machine lines first between)
    (onward :
      Accessed between (lines.drop (first.countP (·.isPoll machine.keyboard))) later after) :
    Accessed machine lines (first ++ later) after where
  rest := by
    rw [onward.rest, before.rest]
  source := by
    rw [onward.source, before.keyboard_eq, List.drop_drop, List.countP_append]
  cells := by
    intro cell other
    have same := before.keyboard_eq
    rw [onward.cells cell (same ▸ other), before.cells cell other, same, storedBy_append,
      latestIn_append]

end Accessed

section

variable {machine : Machine} {lines : List Reading} (proper : machine.keyboard.Proper)
  (script : machine.terminal.console.source = .script lines)
  (forgiving : (Source.script lines).Forgiving)

include proper script forgiving

theorem Exec.accessed_perform (access : Access) :
    ∃ answer after, perform access.request machine = .ok answer after ∧
      Accessed machine lines [access] after := by
  cases access with
  | write address value =>
      refine ⟨.done, _, rfl, ⟨rfl, script, fun cell _ => ?_⟩⟩
      exact (Memory.get_set machine.memory _ cell _).trans
        (latestIn_singleton ⟨wordOf address, wordOf value⟩ _ cell).symm
  | read address =>
      by_cases status : wordOf address = wordOf machine.keyboard.status
      · obtain ⟨after, read, _, source, moved⟩ := perform_read_status proper script forgiving status
        refine ⟨_, after, read, ⟨?_, ?_, fun cell other => ?_⟩⟩
        · rw [moved]
        · simp [source, Access.isPoll, status]
        · rw [moved]
          simp only [storedBy, if_pos status, List.append_nil]
          exact (latestIn_storedByPoll proper _ _ other).symm
      · refine ⟨_, _, perform_read_plain proper status, ⟨rfl, ?_, fun cell _ => ?_⟩⟩
        · simp [script, Access.isPoll, status]
        · simp [storedBy, status, latestIn]

theorem Exec.accessed_performAll (accesses : List Access) :
    Accessed machine lines accesses (performAll (accesses.map (·.request)) machine).2 := by
  induction accesses generalizing machine lines with
  | nil => exact ⟨rfl, script, fun _ _ => rfl⟩
  | cons access accesses ih =>
      obtain ⟨answer, next, performed, accessed⟩ := accessed_perform proper script forgiving access
      have later := ih (accessed.keyboard_eq ▸ proper) accessed.source
        fun fault member => forgiving fault (List.mem_of_mem_drop member)
      rw [List.map_cons, performAll, performed]
      exact accessed.append later

end

/-- With no line left, polls find nothing and leave every other cell as it is. -/
theorem Exec.performAll_of_exhausted {machine : Machine} (proper : machine.keyboard.Proper)
    (exhausted : machine.terminal.console.source = .script []) {addresses : List Int}
    (status : ∀ address ∈ addresses, wordOf address = wordOf machine.keyboard.status) :
    (performAll (addresses.map .read) machine).1 = addresses.map (fun _ => .ok (.word 0)) ∧
    ∀ cell, cell ≠ wordOf machine.keyboard.status →
      (performAll (addresses.map .read) machine).2.memory.get cell = machine.memory.get cell := by
  induction addresses generalizing machine with
  | nil => exact ⟨rfl, fun _ _ => rfl⟩
  | cons address addresses ih =>
      obtain ⟨next, read, _, source, moved⟩ :=
        perform_read_status proper exhausted nofun (status address List.mem_cons_self)
      have nothing : (Reading.line "").typed = 0 := Reading.typed_of_isBlank rfl
      rw [List.headD_nil, if_pos nothing] at read
      rw [List.headD_nil] at moved
      have keyboard : next.keyboard = machine.keyboard := by rw [moved]
      obtain ⟨answers, cells⟩ := ih (keyboard ▸ proper) source fun later member =>
        keyboard ▸ status later (List.mem_cons_of_mem address member)
      rw [List.map_cons, List.map_cons, performAll, read]
      refine ⟨congrArg (_ :: ·) answers, fun cell other => ?_⟩
      refine (cells cell (keyboard ▸ other)).trans ?_
      rw [moved, proper.get_display, if_neg other, if_neg fun shown => shown.2 nothing]

/-- After any accesses, memory is an array of what was last stored in its cells, with one device in
it: every look at the status register takes one line, and with no line left it stays idle. -/
theorem memory_is_array_with_keyboard {machine : Machine} (proper : machine.keyboard.Proper)
    (blank : machine.memory = Memory.zero) {lines : List Reading}
    (script : machine.terminal.console.source = .script lines)
    (forgiving : (Source.script lines).Forgiving) (history : List Access) :
    let now := (Exec.performAll (history.map (·.request)) machine).2
    let polls := history.countP (·.isPoll machine.keyboard)
    (∀ address, wordOf address ≠ wordOf machine.keyboard.status →
      Exec.perform (.read address) now =
        .ok (.word (latestIn (storedBy machine.keyboard lines history) 0 (wordOf address))) now) ∧
    (∀ address, wordOf address = wordOf machine.keyboard.status →
      let reading := lines.getD polls (.line "")
      ∃ after, Exec.perform (.read address) now =
          .ok (.word (if reading.typed = 0 then 0 else 0x8000)) after ∧
        after.calls = .read reading :: now.calls) ∧
    (lines.length ≤ polls → ∀ addresses : List Int,
      (∀ address ∈ addresses, wordOf address = wordOf machine.keyboard.status) →
      let (answers, after) := Exec.performAll (addresses.map .read) now
      answers = addresses.map (fun _ => .ok (.word 0)) ∧
        ∀ cell, cell ≠ wordOf machine.keyboard.status →
          after.memory.get cell = now.memory.get cell) := by
  intro now polls
  have accessed := Exec.accessed_performAll proper script forgiving history
  have keyboard : now.keyboard = machine.keyboard := accessed.keyboard_eq
  have proper : now.keyboard.Proper := keyboard ▸ proper
  refine ⟨?_, ?_, ?_⟩
  · intro address plain
    have cells := accessed.cells (wordOf address) plain
    rw [blank, Memory.get_zero] at cells
    rw [← cells]
    exact Exec.perform_read_plain proper (keyboard ▸ plain)
  · intro address status reading
    have left : (lines.drop polls).headD (.line "") = reading := by
      rw [List.headD_eq_head?_getD, List.head?_drop, ← List.getD_eq_getElem?_getD]
    obtain ⟨after, read, calls, _⟩ := Exec.perform_read_status proper accessed.source
      (fun fault member => forgiving fault (List.mem_of_mem_drop member)) (keyboard ▸ status)
    rw [left] at read calls
    exact ⟨after, read, calls⟩
  · intro exhausted addresses status
    have source := accessed.source
    rw [List.drop_eq_nil_of_le exhausted] at source
    have idle := Exec.performAll_of_exhausted proper source (keyboard ▸ status)
    rwa [keyboard] at idle

theorem typed_letter_is_stored_once :
    let machine := Machine.typing "y"
    let history : List Access := [.write 0xFE02 7, .read (0xFE00 - 65536), .write 0xFE00 5]
    let now := (Exec.performAll (history.map (·.request)) machine).2
    machine.keyboard.Proper ∧ machine.memory = Memory.zero ∧
    machine.terminal.console.source = .script [.line "y"] ∧
    (Source.script [.line "y"]).Forgiving ∧
    Exec.perform (.read (0xFE02 + 65536)) now = .ok (.word 0x79) now ∧
    (∃ after, Exec.perform (.read 0xFE00) now = .ok (.word 0) after ∧
      after.calls = .read (.line "") :: now.calls) ∧
    (Exec.performAll [.read 0xFE00, .read 0x1FE00] now).1 = [.ok (.word 0), .ok (.word 0)] := by
  intro machine history now
  have proper : machine.keyboard.Proper := Keyboard.standard_proper
  have forgiving : (Source.script [.line "y"]).Forgiving := by
    intro fault member
    simp at member
  obtain ⟨plain, polled, idle⟩ :=
    memory_is_array_with_keyboard proper rfl rfl forgiving history
  exact ⟨proper, rfl, rfl, forgiving, plain _ (by decide), polled 0xFE00 (by decide),
    (idle (by decide) [0xFE00, 0x1FE00] (by decide)).1⟩

end Lc3
