import Lc3.Proofs.FilePlaces
import Lc3.Proofs.Invocation

/-!
What the logging options change. A call with a log file and one without go through the same run;
apart from the standard error stream they differ in the log file alone.
-/

namespace Lc3

open CommandLine

/-! Loading from files of which one was written over. -/

section

variable {files : Files} {place : List String} (writable : files.Writable place)
  (content : List UInt8)

include writable

end

namespace CommandLine

section

variable {files : Files} {place : List String} (writable : files.Writable place)
  (console : Console) {program : String}

include writable

end

/-- The same options without those for logging. -/
def Options.silent (options : Options) : Options := ⟨options.config, false, .absent, false⟩

end CommandLine

end Lc3
