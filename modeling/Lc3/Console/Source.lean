import Lc3.Console.Fault
import Lc3.Text.Newline
import Lc3.Text.Utf8

/-!
Where a console's lines come from: a script with one entry for each read, or a stream of text that
is cut into lines as it is read.
-/

namespace Lc3

/-- What a read yields. -/
inductive Reading
  | line (text : String)
  | failure (fault : Fault)
  deriving DecidableEq, Repr

inductive Source
  /-- One entry for each read; when they are used up, every read yields the empty line. -/
  | script (entries : List Reading)
  /-- Text whose lines end at newlines. A read that would have to go past the end of a text that
  was cut off inside a character fails. -/
  | stream (text : List Char) (ending : Utf8.Ending)
  /-- Bytes that are not text: the first read fails, and nothing is left after it. -/
  | undecodable
  deriving DecidableEq

namespace Source

/-- A final carriage return of a text that was cut off does not end a line, since a newline might
have followed. -/
def withoutPendingReturn (text : List Char) (ending : Utf8.Ending) : List Char :=
  if ending = .cutOff ∧ text.getLast? = some '\r' then text.dropLast else text

def ofBytes (bytes : List UInt8) : Source :=
  match Utf8.decode? bytes with
  | some (text, ending) => .stream (Text.unifyNewlines (withoutPendingReturn text ending)) ending
  | none => .undecodable

def ofText (text : String) : Source :=
  .stream text.toList .whole

/-- A line without the carriage returns and newlines at its end. -/
def stripLineEnd (line : List Char) : List Char :=
  (line.reverse.dropWhile fun char => char == '\r' || char == '\n').reverse

/-- Takes the next line. Past the end of the input that is the empty line. -/
def readLine : Source → Reading × Source
  | .script [] => (.line "", .script [])
  | .script (entry :: entries) => (entry, .script entries)
  | .undecodable => (.failure .undecodable, .stream [] .whole)
  | .stream text ending =>
    let line := text.takeWhile (· != '\n')
    match text.dropWhile (· != '\n'), ending with
    | _ :: rest, _ => (.line (String.ofList (stripLineEnd line)), .stream rest ending)
    | [], .whole => (.line (String.ofList (stripLineEnd line)), .stream [] .whole)
    | [], .cutOff => (.failure .undecodable, .stream [] .cutOff)

theorem readLine_script (entries : List Reading) :
    (script entries).readLine = (entries.headD (.line ""), .script entries.tail) := by
  cases entries <;> rfl

/-- A bound on the number of reads that can still yield something. -/
def remaining : Source → Nat
  | .script entries => entries.length
  | .stream text _ => text.length
  | .undecodable => 0

end Source

end Lc3
