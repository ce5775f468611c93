import Lc3.CommandLine.Arguments

/-!
The texts that explain the command line.
-/

namespace Lc3.CommandLine

def programName : String := "lc3-run"

def usage : String :=
  "usage: lc3-run [-h] [--config CONFIG] [--debug] [--logfile LOGFILE]\n" ++
  "               [--console]\n" ++
  "               program\n"

def help : String :=
  usage ++
  "\n" ++
  "Run a 16-bit program image (big-endian words, origin first).\n" ++
  "\n" ++
  "positional arguments:\n" ++
  "  program            program image (.obj)\n" ++
  "\n" ++
  "options:\n" ++
  "  -h, --help         show this help message and exit\n" ++
  "  --config CONFIG    path to yaml config\n" ++
  "  --debug            enable debug logging.\n" ++
  "  --logfile LOGFILE  path to processor log\n" ++
  "  --console          also echo logs to stderr\n"

/-- What is written when the arguments make no sense. -/
def complaint (error : UsageError) : String :=
  usage ++ programName ++ ": error: " ++ error.message ++ "\n"

end Lc3.CommandLine
