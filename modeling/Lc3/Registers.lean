import Lc3.Instruction
import Lc3.Number.Power

/-!
The register file: eight general registers, the program counter and the condition flag. A caller
may count registers from the end with negative numbers, so that -1 names the last one.
-/

namespace Lc3

/-- The address at which a program counter stands before any image is loaded. -/
def defaultOrigin : Word := 0x3000

structure Registers where
  general : Vector Word 8
  pc : Word
  condition : Condition
  deriving DecidableEq

inductive RegisterError
  | noneToRead
  | noneToSet
  /-- The number of a register has more than 64 bits. -/
  | numberTooLarge
  deriving DecidableEq, Repr

def RegisterError.message : RegisterError → String
  | .noneToRead => "list index out of range"
  | .noneToSet => "list assignment index out of range"
  | .numberTooLarge => "cannot fit 'int' into an index-sized integer"

namespace Register

def count : Nat := 8

/-- The last register, in which a subroutine call leaves its return address. -/
def link : Register := 7

/-- The register of that number, or the one so far from the end. -/
def ofInt? (number : Int) : Option Register :=
  if -8 ≤ number ∧ number < 8 then some (BitVec.ofInt 3 number) else none

end Register

namespace Registers

def initial : Registers where
  general := Vector.replicate 8 0
  pc := defaultOrigin
  condition := .zero

def get (registers : Registers) (register : Register) : Word :=
  registers.general.get ⟨register.toNat, register.isLt⟩

def set (registers : Registers) (register : Register) (value : Word) : Registers :=
  { registers with general := registers.general.set register.toNat value register.isLt }

@[simp] theorem get_set_self (registers : Registers) (register : Register) (value : Word) :
    (registers.set register value).get register = value :=
  Vector.getElem_set_self register.isLt

theorem get_set_of_ne (registers : Registers) {register other : Register} (value : Word)
    (different : register ≠ other) :
    (registers.set register value).get other = registers.get other :=
  Vector.getElem_set_ne register.isLt other.isLt fun same =>
    different (BitVec.eq_of_toNat_eq same)

@[simp] theorem pc_set (registers : Registers) (register : Register) (value : Word) :
    (registers.set register value).pc = registers.pc := rfl

@[simp] theorem condition_set (registers : Registers) (register : Register) (value : Word) :
    (registers.set register value).condition = registers.condition := rfl

/-- Makes the flag describe the present value of `register`. -/
def flag (registers : Registers) (register : Register) : Registers :=
  { registers with condition := Condition.ofWord (registers.get register) }

/-- Stores a result: the register takes the value and the flag its sign. -/
def load (registers : Registers) (register : Register) (value : Word) : Registers :=
  (registers.set register value).flag register

theorem load_eq (registers : Registers) (register : Register) (value : Word) :
    registers.load register value =
      { registers.set register value with condition := Condition.ofWord value } := by
  simp [load, flag]

/-! The same operations for a register given by number. -/

/-- The register of a number; `missing` is what is wrong if there is none, unless the number is
too large to be compared with anything. -/
def registerAt (missing : RegisterError) (number : Int) : Except RegisterError Register :=
  match Register.ofInt? number with
  | some register => .ok register
  | none =>
    if -twoTo 63 ≤ number ∧ number < twoTo 63 then .error missing else .error .numberTooLarge

def getAt (registers : Registers) (number : Int) : Except RegisterError Word :=
  (registerAt .noneToRead number).map registers.get

def setAt (registers : Registers) (number value : Int) : Except RegisterError Registers :=
  (registerAt .noneToSet number).map fun register => registers.set register (wordOf value)

def flagAt (registers : Registers) (number : Int) : Except RegisterError Registers :=
  (registerAt .noneToRead number).map registers.flag

end Registers

end Lc3
