import Lc3.Console.Fault
import Lc3.Number.Hex

/-!
The log of a run. A message is kept as the event it reports; its wording, its level and the part
of the program it comes from are functions of the event.
-/

namespace Lc3

inductive Outcome
  | continuing
  | halted
  | faulted
  deriving DecidableEq, Repr

namespace Outcome

def all : List Outcome := [.continuing, .halted, .faulted]

def name : Outcome → String
  | .continuing => "CONTINUING"
  | .halted => "HALTED"
  | .faulted => "FAULTED"

def label : Outcome → String
  | .continuing => "continuing"
  | .halted => "halted"
  | .faulted => "faulted"

def exitStatus : Outcome → Nat
  | .faulted => 1
  | .continuing | .halted => 0

end Outcome

inductive Level
  | debug
  | warning
  | error
  deriving DecidableEq, Repr

namespace Level

def name : Level → String
  | .debug => "DEBUG"
  | .warning => "WARNING"
  | .error => "ERROR"

/-- Whether a message of this level is written when only warnings and errors are wanted. -/
def isSevere : Level → Bool
  | .debug => false
  | .warning | .error => true

end Level

inductive Message
  | loaded (size : Nat) (origin : BitVec 16)
  | halted (steps : Int)
  | unknownTrap (vector : Int) (pc : BitVec 16)
  | limitReached (limit : Int) (pc : BitVec 16)
  | readFailed (fault : Fault)
  | writeFailed (fault : Fault)
  | finished (outcome : Outcome) (steps : Int)
  deriving DecidableEq, Repr

namespace Message

def level : Message → Level
  | .loaded _ _ | .halted _ | .finished _ _ => .debug
  | .limitReached _ _ | .readFailed _ | .writeFailed _ => .warning
  | .unknownTrap _ _ => .error

def text : Message → String
  | .loaded size origin =>
    "Datapath: loaded " ++ toString size ++ " words at origin " ++ hexText origin.toNat 4
  | .halted steps => "HALT encountered after " ++ toString steps ++ " steps"
  | .unknownTrap vector pc =>
    "TRAP: unknown trap vector " ++ hexText vector 2 ++ " at PC " ++ hexText pc.toNat 4
  | .limitReached limit pc =>
    "step limit " ++ toString limit ++ " reached at PC " ++ hexText pc.toNat 4
  | .readFailed fault => "console read failed: " ++ fault.text
  | .writeFailed fault => "console write failed: " ++ fault.text
  | .finished outcome steps =>
    "CLI: finished with " ++ outcome.name ++ " after " ++ toString steps ++ " steps"

/-- The part of the program that a message comes from, as detailed logs name it. -/
def origin : Message → String
  | .readFailed _ | .writeFailed _ => "console.py"
  | _ => "processor.py"

end Message

end Lc3
