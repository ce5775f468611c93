import Lc3.CommandLine.Arguments
import Lc3.Log

/-!
Where log messages go and how their lines are laid out. Without debugging only warnings and errors
are written. A log file's lines name the origin of a message when debugging; the standard error
stream gets lines of another layout if no destination was asked for.
-/

namespace Lc3.CommandLine

def padRight (width : Nat) (text : String) : String :=
  text ++ String.ofList (List.replicate (width - text.length) ' ')

def padLeft (width : Nat) (text : String) : String :=
  String.ofList (List.replicate (width - text.length) ' ') ++ text

def detailedLine (message : Message) : String :=
  message.level.name ++ " root:" ++ message.origin ++ ":N " ++ message.text

def fileLine (message : Message) : String :=
  padRight 5 message.level.name ++ " " ++ message.text

def consoleLine (message : Message) : String :=
  padLeft 5 message.level.name ++ " " ++ message.text

def plainLine (message : Message) : String :=
  message.level.name ++ ":root:" ++ message.text

def selected (debug : Bool) (messages : List Message) : List Message :=
  messages.filter fun message => debug || message.level.isSevere

def writeLines (line : Message → String) (messages : List Message) : String :=
  String.join (messages.map fun message => line message ++ "\n")

def fileText (options : Options) (messages : List Message) : String :=
  writeLines (if options.debug then detailedLine else fileLine) (selected options.debug messages)

def Options.logName? (options : Options) : Option String := options.logfile.text?.filter (· ≠ "")

/-- What the messages amount to on the standard error stream. -/
def errorText (options : Options) (messages : List Message) : String :=
  let messages := selected options.debug messages
  if options.console then writeLines consoleLine messages
  else if options.logName?.isSome then ""
  else writeLines plainLine messages

end Lc3.CommandLine
