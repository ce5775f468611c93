import Lc3.Machine.Basic

/-!
Access to memory as instructions see it. A read of the keyboard's status register polls the
console first and so gives a fresh answer; every other access is plain storage.
-/

namespace Lc3.Exec

def write (address value : Word) : Exec Unit :=
  update fun machine => { machine with memory := machine.memory.set address value }

/-- Takes a line of input. If it starts with a character other than NUL, the status register shows
it ready and the data register holds it; otherwise the status register shows none. -/
def poll : Exec Unit := do
  let char ← atTerminal Terminal.readChar
  let keyboard ← view (·.keyboard)
  match char with
  | none | some 0 => write (wordOf keyboard.status) 0
  | some code =>
    write (wordOf keyboard.status) Keyboard.ready
    write (wordOf keyboard.data) code

def read (address : Word) : Exec Word := do
  if ← view (·.keyboard.isStatus address) then poll
  view (·.memory.get address)

/-- Reads words from an address on until one is zero, on top of those already read, which stand in
reverse. At most `fuel` words are read. -/
def readWordsOnto (words : List Word) : Nat → Word → Exec (List Word)
  | 0, _ => throw .endlessString
  | fuel + 1, address => do
    let word ← read address
    if word = 0 then return words.reverse
    readWordsOnto (word :: words) fuel (address + 1)

/-- Enough reads for every string that ends: one round of the addresses for each line of input
that is left, and one more to find the input exhausted. -/
def stringFuel (machine : Machine) : Nat :=
  65536 * (machine.terminal.console.source.remaining + 1) + 1

def readString (address : Word) : Exec (List Word) := do
  readWordsOnto [] (← view stringFuel) address

end Lc3.Exec
