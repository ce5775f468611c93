import Lc3.Console.Terminal
import Lc3.Image
import Lc3.Memory
import Lc3.Registers

/-!
The state of a machine and the actions on it. An action that is interrupted keeps the state which
it had reached: a fault of the console undoes nothing.
-/

namespace Lc3

structure Machine where
  registers : Registers
  memory : Memory
  keyboard : Keyboard
  terminal : Terminal
  origin : Word
  imageSize : Nat
  /-- Instructions executed so far. -/
  tick : Int
  stepLimit : Option Int
  haltMessage : Text
  /-- What the latest instruction came to; the control unit works only while it is `continuing`. -/
  state : Outcome

/-- What stops an action before its end. -/
inductive Interrupt
  /-- A failure of the console that is passed on. -/
  | fault (fault : Fault)
  /-- A string that no zero word ends, in a memory whose keyboard is out of reach. -/
  | endlessString
  deriving DecidableEq, Repr

abbrev Exec := EStateM Interrupt Machine

def defaultHaltMessage : Text := Text.ofString "HALTing execution"

namespace Machine

def load (image : Image) (keyboard : Keyboard) (stepLimit : Option Int) (haltMessage : Text)
    (console : Console) : Machine where
  registers := { Registers.initial with pc := image.origin }
  memory := Memory.zero.place image.origin image.words
  keyboard
  terminal := ⟨console, [.loaded image.words.length image.origin]⟩
  origin := image.origin
  imageSize := image.words.length
  tick := 0
  stepLimit
  haltMessage
  state := .continuing

/-- A machine with the image that a value holds; a value that holds none leaves nothing behind. -/
def ofValue (image : Value) (keyboard : Keyboard) (stepLimit : Option Int) (haltMessage : Text)
    (console : Console) : Except ImageError Machine :=
  (Image.ofValue image).map fun image => load image keyboard stepLimit haltMessage console

/-- The same machine under a fresh control unit. -/
def renew (machine : Machine) : Machine := { machine with state := .continuing }

end Machine

namespace Exec

def view (project : Machine → α) : Exec α := fun machine => .ok (project machine) machine

def update (change : Machine → Machine) : Exec Unit := fun machine => .ok () (change machine)

@[simp] theorem view_apply (project : Machine → α) (machine : Machine) :
    view project machine = .ok (project machine) machine := rfl

@[simp] theorem update_apply (change : Machine → Machine) (machine : Machine) :
    update change machine = .ok () (change machine) := rfl

def atTerminal (action : EStateM Fault Terminal α) : Exec α := fun machine =>
  match action machine.terminal with
  | .ok result terminal => .ok result { machine with terminal }
  | .error fault terminal => .error (.fault fault) { machine with terminal }

def pc : Exec Word := view (·.registers.pc)

def condition : Exec Condition := view (·.registers.condition)

def register (name : Register) : Exec Word := view (·.registers.get name)

def updateRegisters (change : Registers → Registers) : Exec Unit :=
  update fun machine => { machine with registers := change machine.registers }

def jump (target : Word) : Exec Unit := updateRegisters ({ · with pc := target })

def setRegister (name : Register) (value : Word) : Exec Unit := updateRegisters (·.set name value)

/-- Stores a result: the register takes the value and the flag its sign. -/
def load (name : Register) (value : Word) : Exec Unit := updateRegisters (·.load name value)

def note (message : Message) : Exec Unit :=
  update fun machine => { machine with terminal := machine.terminal.note message }

end Exec

end Lc3
