import Lc3.Proofs.RunTrace
import Lc3.Run

/-!
Machines as they are built, and requests to them, one after the other. An interrupted request
leaves the machine as it is then, and the next one finds it so.
-/

namespace Lc3

theorem build_eq_ok {files : Files} {image config : Value} {console : Console} {machine : Machine}
    (built : build files image config console = .ok machine) :
    ∃ program settings, machine = Machine.ofConfig program settings console ∧
      ∀ other, build files image config other = .ok (Machine.ofConfig program settings other) := by
  unfold build at built ⊢
  split at built
  · cases built
  · split at built
    · cases built
    · cases built
      exact ⟨_, _, rfl, fun _ => rfl⟩

theorem Machine.ofConfig_proper (image : Image) (config : Config) (console : Console) :
    (Machine.ofConfig image config console).keyboard.Proper where
  reachable := by
    have bound := config.status.isLt
    exact ⟨Int.natCast_nonneg _, by change ((config.status.toNat : Nat) : Int) < 65536; omega⟩
  dataInRange := by
    have bound := config.data.isLt
    exact ⟨Int.natCast_nonneg _, by change ((config.data.toNat : Nat) : Int) < 65536; omega⟩
  distinct := fun same => config.distinct (BitVec.eq_of_toNat_eq (Int.ofNat.inj same))

/-- What can be asked of a machine from outside. Numbers may be of any size. -/
inductive Request
  | step
  | run
  | trap (vector : Int)
  | read (address : Int)
  | write (address value : Int)
  | setRegister (number value : Int)
  | flag (number : Int)
  | setPc (value : Int)
  | renew
  deriving DecidableEq

inductive Answer
  /-- What a step, a run or a trap came to; nothing for a run without end. -/
  | outcome (outcome : Option Outcome)
  | word (value : Word)
  | done
  | refused (error : RegisterError)
  deriving DecidableEq

namespace Exec

def tryRegisters (change : Registers → Except RegisterError Registers) : Exec Answer :=
  fun machine =>
    match change machine.registers with
    | .ok registers => .ok .done { machine with registers }
    | .error error => .ok (.refused error) machine

def perform : Request → Exec Answer
  | .step => return .outcome (some (← step))
  | .run => return .outcome (← run)
  | .trap vector => return .outcome (some (← trap vector))
  | .read address => return .word (← read (wordOf address))
  | .write address value => do
    write (wordOf address) (wordOf value)
    return .done
  | .setRegister number value => tryRegisters (·.setAt number value)
  | .flag number => tryRegisters (·.flagAt number)
  | .setPc value => do
    jump (wordOf value)
    return .done
  | .renew => do
    update Machine.renew
    return .done

/-- The answers to requests, in order, and the machine after the last of them. -/
def performAll : List Request → Machine → List (Except Interrupt Answer) × Machine
  | [], machine => ([], machine)
  | request :: requests, machine =>
    match perform request machine with
    | .ok answer next =>
      let (answers, last) := performAll requests next
      (.ok answer :: answers, last)
    | .error interrupt next =>
      let (answers, last) := performAll requests next
      (.error interrupt :: answers, last)

end Exec

end Lc3
