import Lc3.Word

/-!
Storage: 65536 words, one for each address, and the addresses at which the keyboard shows in it.
-/

namespace Lc3

structure Memory where
  cells : Vector Word 65536

namespace Memory

def size : Nat := 65536

def zero : Memory := ⟨Vector.replicate 65536 0⟩

def get (memory : Memory) (address : Word) : Word :=
  memory.cells.get ⟨address.toNat, address.isLt⟩

def set (memory : Memory) (address value : Word) : Memory :=
  ⟨memory.cells.set address.toNat value address.isLt⟩

@[simp] theorem get_zero (address : Word) : zero.get address = 0 :=
  Vector.getElem_replicate address.isLt

@[simp] theorem get_set_self (memory : Memory) (address value : Word) :
    (memory.set address value).get address = value :=
  Vector.getElem_set_self address.isLt

theorem get_set_of_ne (memory : Memory) {address other : Word} (value : Word)
    (different : address ≠ other) : (memory.set address value).get other = memory.get other :=
  Vector.getElem_set_ne address.isLt other.isLt fun same =>
    different (BitVec.eq_of_toNat_eq same)

theorem get_set (memory : Memory) (address other value : Word) :
    (memory.set address value).get other =
      if address = other then value else memory.get other := by
  split
  next same => rw [same, get_set_self]
  next different => exact get_set_of_ne memory value different

/-- Puts words at consecutive addresses. The address after the last one is 0, and of two words
put at one address the later stays. -/
def place (memory : Memory) (address : Word) : List Word → Memory
  | [] => memory
  | word :: words => (memory.set address word).place (address + 1) words

/-- The place of a cell by number; negative numbers count from the end. -/
def position (number : Int) : Nat := (if number < 0 then number + size else number).toNat

/-- The cells from one number on up to another one, as far as there are any. -/
def slice (memory : Memory) (first last : Int) : List Word :=
  (memory.cells.toArray.extract (position first) (position last)).toList

end Memory

/-- The addresses of the two keyboard registers. A status address that is no word is never read,
and a data address stands for the word it is congruent to. -/
structure Keyboard where
  status : Int
  data : Int
  deriving DecidableEq, Repr

namespace Keyboard

def standard : Keyboard := ⟨0xFE00, 0xFE02⟩

/-- The word in the status register while a character is waiting. -/
def ready : Word := 0x8000

def isStatus (keyboard : Keyboard) (address : Word) : Bool :=
  keyboard.status == (address.toNat : Int)

end Keyboard

end Lc3
