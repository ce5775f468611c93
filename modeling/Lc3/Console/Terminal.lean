import Lc3.Console.Basic
import Lc3.Log
import Lc3.Word

/-!
A console together with the log. Its two services absorb failures of the device: they log them and
go on as if nothing had been read or as if the text had been taken.
-/

namespace Lc3

/-- A console and the messages logged so far, the latest first. -/
structure Terminal where
  console : Console
  log : List Message
  deriving DecidableEq

namespace Terminal

def note (terminal : Terminal) (message : Message) : Terminal :=
  { terminal with log := message :: terminal.log }

/-- The code of the first character of a line, modulo 65536. -/
def firstCode (line : String) : Option Word :=
  line.toList.head?.map fun char => BitVec.ofNat 16 char.toNat

/-- Takes the next line and yields the code of its first character, or nothing if the line is
empty or could not be read. -/
def readChar : EStateM Fault Terminal (Option Word) := fun terminal =>
  match terminal.console.readLine with
  | (.line line, console) => .ok (firstCode line) { terminal with console }
  | (.failure fault, console) =>
    if fault.absorbedByRead then
      .ok none ({ terminal with console }.note (.readFailed fault))
    else
      .error fault { terminal with console }

/-- Writes a text; a device that refuses it loses it. -/
def print (text : Text) : EStateM Fault Terminal Unit := fun terminal =>
  match terminal.console.write text with
  | (none, console) => .ok () { terminal with console }
  | (some fault, console) =>
    if fault.absorbedByWrite then
      .ok () ({ terminal with console }.note (.writeFailed fault))
    else
      .error fault { terminal with console }

/-- What reading a character can come to. -/
inductive ReadsChar (terminal : Terminal) : EStateM.Result Fault Terminal (Option Word) → Prop
  | line {line console} : terminal.console.readLine = (.line line, console) →
      ReadsChar terminal (.ok (firstCode line) { terminal with console })
  | absorbed {fault console} : terminal.console.readLine = (.failure fault, console) →
      fault.absorbedByRead = true →
      ReadsChar terminal (.ok none ({ terminal with console }.note (.readFailed fault)))
  | passedOn {fault console} : terminal.console.readLine = (.failure fault, console) →
      fault.absorbedByRead = false → ReadsChar terminal (.error fault { terminal with console })

theorem readsChar (terminal : Terminal) : ReadsChar terminal (readChar terminal) := by
  unfold readChar
  rcases taken : terminal.console.readLine with ⟨reading, console⟩
  cases reading with
  | line line => exact .line taken
  | failure fault =>
      by_cases absorbed : fault.absorbedByRead = true
      · simp only [if_pos absorbed]
        exact .absorbed taken absorbed
      · simp only [if_neg absorbed]
        exact .passedOn taken (Bool.eq_false_iff.mpr absorbed)

/-- What writing a text can come to. -/
inductive Prints (terminal : Terminal) (text : Text) :
    EStateM.Result Fault Terminal Unit → Prop
  | taken {console} : terminal.console.write text = (none, console) →
      Prints terminal text (.ok () { terminal with console })
  | absorbed {fault console} : terminal.console.write text = (some fault, console) →
      fault.absorbedByWrite = true →
      Prints terminal text (.ok () ({ terminal with console }.note (.writeFailed fault)))
  | passedOn {fault console} : terminal.console.write text = (some fault, console) →
      fault.absorbedByWrite = false → Prints terminal text (.error fault { terminal with console })

theorem prints (terminal : Terminal) (text : Text) :
    Prints terminal text (print text terminal) := by
  unfold print
  rcases put : terminal.console.write text with ⟨failure, console⟩
  cases failure with
  | none => exact .taken put
  | some fault =>
      by_cases absorbed : fault.absorbedByWrite = true
      · simp only [if_pos absorbed]
        exact .absorbed put absorbed
      · simp only [if_neg absorbed]
        exact .passedOn put (Bool.eq_false_iff.mpr absorbed)

end Terminal

end Lc3
