import Lc3.Condition

/-!
The instruction set. A word is sixteen bits of fields at fixed places; its top four bits select
the instruction, and `decode` reads off the fields which that instruction uses.
-/

namespace Lc3

abbrev Register := BitVec 3

/-- Operation numbers. A word holds four bits of them, so none selects `unknown`. -/
inductive Opcode
  | br | add | ld | st | jsr | and | ldr | str
  | rti | not | ldi | sti | jmp | res | lea | trap
  | unknown
  deriving DecidableEq, Repr

namespace Opcode

def all : List Opcode :=
  [.br, .add, .ld, .st, .jsr, .and, .ldr, .str,
    .rti, .not, .ldi, .sti, .jmp, .res, .lea, .trap, .unknown]

def number : Opcode → Nat
  | .br => 0
  | .add => 1
  | .ld => 2
  | .st => 3
  | .jsr => 4
  | .and => 5
  | .ldr => 6
  | .str => 7
  | .rti => 8
  | .not => 9
  | .ldi => 10
  | .sti => 11
  | .jmp => 12
  | .res => 13
  | .lea => 14
  | .trap => 15
  | .unknown => 16

def name : Opcode → String
  | .br => "BR"
  | .add => "ADD"
  | .ld => "LD"
  | .st => "ST"
  | .jsr => "JSR"
  | .and => "AND"
  | .ldr => "LDR"
  | .str => "STR"
  | .rti => "RTI"
  | .not => "NOT"
  | .ldi => "LDI"
  | .sti => "STI"
  | .jmp => "JMP"
  | .res => "RES"
  | .lea => "LEA"
  | .trap => "TRAP"
  | .unknown => "UNKNOWN"

/-- The operation whose number stands in the top four bits. -/
def ofWord (word : Word) : Opcode :=
  match (word >>> 12).toNat with
  | 0 => .br
  | 1 => .add
  | 2 => .ld
  | 3 => .st
  | 4 => .jsr
  | 5 => .and
  | 6 => .ldr
  | 7 => .str
  | 8 => .rti
  | 9 => .not
  | 10 => .ldi
  | 11 => .sti
  | 12 => .jmp
  | 13 => .res
  | 14 => .lea
  | 15 => .trap
  | _ => .unknown

end Opcode

/-! Fields of a word, named for their role. -/

namespace Field

def destination (word : Word) : Register := word.extractLsb' 9 3

def base (word : Word) : Register := word.extractLsb' 6 3

def second (word : Word) : Register := word.extractLsb' 0 3

def isImmediate (word : Word) : Bool := word.getLsbD 5

def isLong (word : Word) : Bool := word.getLsbD 11

def mask (word : Word) : BitVec 3 := word.extractLsb' 9 3

def immediate5 (word : Word) : BitVec 5 := word.extractLsb' 0 5

def offset6 (word : Word) : BitVec 6 := word.extractLsb' 0 6

def offset9 (word : Word) : BitVec 9 := word.extractLsb' 0 9

def offset11 (word : Word) : BitVec 11 := word.extractLsb' 0 11

def vector (word : Word) : BitVec 8 := word.extractLsb' 0 8

end Field

/-- A second operand: a register, or a constant held in the instruction. -/
inductive Operand
  | register (source : Register)
  | immediate (constant : BitVec 5)
  deriving DecidableEq, Repr

inductive Instruction
  | branch (mask : BitVec 3) (offset : BitVec 9)
  | add (destination source : Register) (operand : Operand)
  | load (destination : Register) (offset : BitVec 9)
  | store (source : Register) (offset : BitVec 9)
  | call (offset : BitVec 11)
  | callRegister (base : Register)
  | and (destination source : Register) (operand : Operand)
  | loadBase (destination base : Register) (offset : BitVec 6)
  | storeBase (source base : Register) (offset : BitVec 6)
  | unused
  | not (destination source : Register)
  | loadIndirect (destination : Register) (offset : BitVec 9)
  | storeIndirect (source : Register) (offset : BitVec 9)
  | jump (base : Register)
  | loadAddress (destination : Register) (offset : BitVec 9)
  | trap (vector : BitVec 8)
  deriving DecidableEq, Repr

namespace Instruction

def operandOf (word : Word) : Operand :=
  if Field.isImmediate word then .immediate (Field.immediate5 word)
  else .register (Field.second word)

/-- The instruction that a word denotes. Every word denotes one: the two operation numbers
without a meaning give `unused`. -/
def decode (word : Word) : Instruction :=
  match Opcode.ofWord word with
  | .br => .branch (Field.mask word) (Field.offset9 word)
  | .add => .add (Field.destination word) (Field.base word) (operandOf word)
  | .ld => .load (Field.destination word) (Field.offset9 word)
  | .st => .store (Field.destination word) (Field.offset9 word)
  | .jsr =>
    if Field.isLong word then .call (Field.offset11 word) else .callRegister (Field.base word)
  | .and => .and (Field.destination word) (Field.base word) (operandOf word)
  | .ldr => .loadBase (Field.destination word) (Field.base word) (Field.offset6 word)
  | .str => .storeBase (Field.destination word) (Field.base word) (Field.offset6 word)
  | .not => .not (Field.destination word) (Field.base word)
  | .ldi => .loadIndirect (Field.destination word) (Field.offset9 word)
  | .sti => .storeIndirect (Field.destination word) (Field.offset9 word)
  | .jmp => .jump (Field.base word)
  | .lea => .loadAddress (Field.destination word) (Field.offset9 word)
  | .trap => .trap (Field.vector word)
  | .rti | .res | .unknown => .unused

end Instruction

end Lc3
