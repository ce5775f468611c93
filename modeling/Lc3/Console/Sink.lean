import Lc3.Console.Fault
import Lc3.Text.Basic

/-!
Where a console's output goes. A write succeeds as a whole or fails as a whole.
-/

namespace Lc3

inductive Sink
  /-- Takes every text. -/
  | full
  /-- Takes texts of characters that all lie below a bound. -/
  | charset (bound : Nat)
  /-- Takes nothing. -/
  | closed
  /-- One outcome for each write; when they are used up, every write succeeds. -/
  | script (outcomes : List (Option Fault))
  deriving DecidableEq

namespace Sink

def ascii : Sink := .charset 128

def latin1 : Sink := .charset 256

def utf8 : Sink := .charset 0x110000

/-- Whether a character set that ends at `bound` has a code point. -/
def encodes (bound : Nat) (point : CodePoint) : Bool := point.char?.any (·.toNat < bound)

/-- How a write of `text` fails, if it does, and the sink after it. -/
def write (sink : Sink) (text : Text) : Option Fault × Sink :=
  match sink with
  | .full => (none, .full)
  | .charset bound =>
    (if text.all (encodes bound) then none else some .unencodable, .charset bound)
  | .closed => (some (.device .brokenPipe "stdout closed"), .closed)
  | .script [] => (none, .script [])
  | .script (outcome :: outcomes) => (outcome, .script outcomes)

end Sink

end Lc3
