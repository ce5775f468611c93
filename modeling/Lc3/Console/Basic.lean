import Lc3.Console.Sink
import Lc3.Console.Source

/-!
A console reads lines and writes texts. It remembers every call made of it, so that what a program
read and wrote, and in which order, can be asked afterwards.
-/

namespace Lc3

inductive ConsoleCall
  | read (result : Reading)
  | write (text : Text) (failure : Option Fault)
  deriving DecidableEq

namespace ConsoleCall

def isRead : ConsoleCall → Bool
  | .read _ => true
  | .write _ _ => false

def written? : ConsoleCall → Option Text
  | .write text none => some text
  | .write _ (some _) | .read _ => none

end ConsoleCall

/-- A console with its calls, the latest first. -/
structure Console where
  source : Source
  sink : Sink
  calls : List ConsoleCall
  deriving DecidableEq

namespace Console

def ofSourceSink (source : Source) (sink : Sink) : Console := ⟨source, sink, []⟩

def readLine (console : Console) : Reading × Console :=
  let (result, source) := console.source.readLine
  (result, { console with source, calls := .read result :: console.calls })

def write (console : Console) (text : Text) : Option Fault × Console :=
  let (failure, sink) := console.sink.write text
  (failure, { console with sink, calls := .write text failure :: console.calls })

@[simp] theorem calls_readLine (console : Console) :
    console.readLine.2.calls = .read console.readLine.1 :: console.calls := rfl

@[simp] theorem calls_write (console : Console) (text : Text) :
    (console.write text).2.calls = .write text (console.write text).1 :: console.calls := rfl

/-- How many lines were asked for, failed reads included. -/
def reads (console : Console) : Nat := console.calls.countP (·.isRead)

def chunks (console : Console) : List Text := (console.calls.filterMap (·.written?)).reverse

def output (console : Console) : Text := console.chunks.flatten

end Console

end Lc3
