import Lc3.Word

/-!
The condition flag: the sign of the word most recently loaded into a register. Each flag is one
bit of the mask that a conditional branch carries.
-/

namespace Lc3

inductive Condition
  | positive
  | zero
  | negative
  deriving DecidableEq, Repr

namespace Condition

def ofWord (word : Word) : Condition :=
  if word = 0 then .zero else if word.msb then .negative else .positive

def bit : Condition → BitVec 3
  | .positive => 1
  | .zero => 2
  | .negative => 4

def name : Condition → String
  | .positive => "POS"
  | .zero => "ZRO"
  | .negative => "NEG"

def all : List Condition := [.positive, .zero, .negative]

end Condition

end Lc3
