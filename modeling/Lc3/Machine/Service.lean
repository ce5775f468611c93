import Lc3.Machine.Access

/-!
The services of the TRAP instruction: characters and strings of the console, and the halt.
-/

namespace Lc3

inductive Service
  | getc
  | out
  | puts
  | input
  | putsp
  | halt
  deriving DecidableEq, Repr

namespace Service

def all : List Service := [.getc, .out, .puts, .input, .putsp, .halt]

def vector : Service → Nat
  | .getc => 0x20
  | .out => 0x21
  | .puts => 0x22
  | .input => 0x23
  | .putsp => 0x24
  | .halt => 0x25

def name : Service → String
  | .getc => "GETC"
  | .out => "OUT"
  | .puts => "PUTS"
  | .input => "IN"
  | .putsp => "PUTSP"
  | .halt => "HALT"

def ofVector? (vector : Int) : Option Service :=
  all.find? fun service => (service.vector : Int) == vector

end Service

def textOfWords (words : List Word) : Text := Text.ofChars (words.map charOf)

/-- The characters of a word that holds two: the low byte's, then the high byte's unless it is
zero. -/
def packedChars (word : Word) : List Char :=
  let low := Char.ofNat (word.toNat % 256)
  let high := word.toNat / 256
  if high = 0 then [low] else [low, Char.ofNat high]

def textOfPackedWords (words : List Word) : Text := Text.ofChars (words.flatMap packedChars)

namespace Exec

def print (text : Text) : Exec Unit := atTerminal (Terminal.print text)

/-- Puts the code of the next character into R0, or zero if there is none. -/
def readCharacter : Exec Word := do
  let char ← atTerminal Terminal.readChar
  let code := char.getD 0
  setRegister 0 code
  return code

def printCharacter (code : Word) : Exec Unit := print (Text.ofChars [charOf code, '\n'])

def serve : Service → Exec Outcome
  | .getc => do
    discard readCharacter
    return .continuing
  | .out => do
    printCharacter (← register 0)
    return .continuing
  | .puts => do
    print (textOfWords (← readString (← register 0)))
    return .continuing
  | .input => do
    let code ← readCharacter
    if code ≠ 0 then printCharacter code
    return .continuing
  | .putsp => do
    print (textOfPackedWords (← readString (← register 0)))
    return .continuing
  | .halt => do
    print ((← view (·.haltMessage)) ++ Text.ofString "\n")
    note (.halted ((← view (·.tick)) + 1))
    return .halted

/-- Performs the service with that number; a number without a service is a fault of the
program. -/
def trap (vector : Int) : Exec Outcome := do
  match Service.ofVector? vector with
  | some service => serve service
  | none =>
    note (.unknownTrap vector (← pc))
    return .faulted

end Exec

end Lc3
