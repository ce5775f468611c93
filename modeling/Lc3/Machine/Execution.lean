import Lc3.Machine.Service

/-!
Execution of instructions, and of programs up to a halt, a fault, the step limit or the top
address.
-/

namespace Lc3

namespace Exec

/-- The address at a distance from the program counter, which already stands behind the
instruction. -/
def relative (offset : BitVec n) : Exec Word := do
  return (← pc) + offset.signExtend 16

def based (base : Register) (offset : BitVec 6) : Exec Word := do
  return (← register base) + offset.signExtend 16

def operand : Operand → Exec Word
  | .register source => register source
  | .immediate constant => return constant.signExtend 16

def execute : Instruction → Exec Outcome
  | .branch mask offset => do
    if mask &&& (← condition).bit ≠ 0 then jump (← relative offset)
    return .continuing
  | .add destination source second => do
    load destination ((← register source) + (← operand second))
    return .continuing
  | .and destination source second => do
    load destination ((← register source) &&& (← operand second))
    return .continuing
  | .not destination source => do
    load destination (~~~(← register source))
    return .continuing
  | .load destination offset => do
    load destination (← read (← relative offset))
    return .continuing
  | .loadIndirect destination offset => do
    load destination (← read (← read (← relative offset)))
    return .continuing
  | .loadBase destination base offset => do
    load destination (← read (← based base offset))
    return .continuing
  | .loadAddress destination offset => do
    load destination (← relative offset)
    return .continuing
  | .store source offset => do
    write (← relative offset) (← register source)
    return .continuing
  | .storeIndirect source offset => do
    write (← read (← relative offset)) (← register source)
    return .continuing
  | .storeBase source base offset => do
    write (← based base offset) (← register source)
    return .continuing
  | .jump base => do
    jump (← register base)
    return .continuing
  | .call offset => do
    setRegister Register.link (← pc)
    jump (← relative offset)
    return .continuing
  | .callRegister base => do
    setRegister Register.link (← pc)
    jump (← register base)
    return .continuing
  | .unused => return .continuing
  | .trap vector => trap vector.toNat

/-- Reads the instruction at the program counter and moves the counter behind it. -/
def fetch : Exec Instruction := do
  let address ← pc
  let word ← read address
  jump (address + 1)
  return Instruction.decode word

/-- Executes one instruction, unless an earlier one ended the program. -/
def step : Exec Outcome := do
  match ← view (·.state) with
  | .continuing =>
    let outcome ← execute (← fetch)
    update fun machine => { machine with tick := machine.tick + 1, state := outcome }
    return outcome
  | ended => return ended

/-- At most `count` steps, up to the first that ends the program; gives the number of steps. -/
def steps : Nat → Exec Nat
  | 0 => return 0
  | count + 1 => do
    if (← step) = .continuing then
      return (← steps count) + 1
    else
      return 1

def topAddress : Word := 0xFFFF

/-- Whether as many instructions were executed as the limit allows. -/
def isExhausted (machine : Machine) : Bool :=
  match machine.stepLimit with
  | some limit => decide (limit ≤ machine.tick)
  | none => false

def noteLimit : Exec Unit := do
  if let some limit ← view (·.stepLimit) then note (.limitReached limit (← pc))

/-- One turn of a run. It gives what the run comes to if that ends here: with the program counter
at the top address, with the step limit reached, or with an instruction that ends the program. -/
def turn : Exec (Option Outcome) := do
  if (← pc) = topAddress then
    return some (← view (·.state))
  else if ← view isExhausted then
    noteLimit
    return some (← view (·.state))
  else
    match ← step with
    | .continuing => return none
    | ended => return some ended

/-- At most `fuel` turns of a run. Gives nothing if more are needed. -/
def runFor : Nat → Exec (Option Outcome)
  | 0 => return none
  | fuel + 1 => do
    match ← turn with
    | none => runFor fuel
    | some outcome => return some outcome

/-- A run that was left off goes on where it stopped. -/
theorem runFor_add (first second : Nat) :
    runFor (first + second) = do
      match ← runFor first with
      | none => runFor second
      | some outcome => return some outcome := by
  induction first with
  | zero => simp [runFor]
  | succ first ih =>
      rw [Nat.succ_add, runFor, runFor, ih]
      simp only [bind_assoc]
      refine bind_congr fun outcome => ?_
      cases outcome <;> simp

end Exec

/-- All turns of a run from a machine on, as many as it takes. A run that never ends has no
result. -/
def Machine.runOn (machine : Machine) : Option (EStateM.Result Interrupt Machine Outcome) :=
  match Exec.turn machine with
  | .ok none machine => machine |>.runOn
  | .ok (some outcome) machine => some (.ok outcome machine)
  | .error interrupt machine => some (.error interrupt machine)
partial_fixpoint

/-- Runs a program to its end. Gives nothing if it has none. -/
def Exec.run : Exec (Option Outcome) := fun machine =>
  match machine.runOn with
  | some (.ok outcome machine) => .ok (some outcome) machine
  | some (.error interrupt machine) => .error interrupt machine
  | none => .ok none machine

end Lc3
