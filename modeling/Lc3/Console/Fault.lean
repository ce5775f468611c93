/-!
Failures of a console. A failure of the device itself is no concern of the program that runs on
the machine; other failures are passed on to whoever runs the machine.
-/

namespace Lc3

inductive DeviceFault
  | general
  | brokenPipe
  | timeout
  | notFound
  deriving DecidableEq, Repr

inductive ForeignFault
  | value
  | endOfInput
  | runtime
  deriving DecidableEq, Repr

inductive Fault
  | device (kind : DeviceFault) (text : String)
  | undecodable
  | unencodable
  | foreign (kind : ForeignFault) (text : String)
  deriving DecidableEq, Repr

namespace Fault

/-- A read that fails in this way counts as a read of nothing. -/
def absorbedByRead : Fault → Bool
  | .device _ _ | .undecodable => true
  | .unencodable | .foreign _ _ => false

/-- A write that fails in this way is given up. -/
def absorbedByWrite : Fault → Bool
  | .device _ _ | .unencodable => true
  | .undecodable | .foreign _ _ => false

def text : Fault → String
  | .device _ text | .foreign _ text => text
  | .undecodable => "<UnicodeDecodeError>"
  | .unencodable => "<UnicodeEncodeError>"

end Fault

end Lc3
