import Lc3.Config.Load
import Lc3.Machine.Execution

/-!
Running an image under a configuration from beginning to end.
-/

namespace Lc3

/-- Why there is no machine to run. -/
inductive BuildFailure
  | config (failure : ConfigFailure)
  | image (error : ImageError)
  deriving DecidableEq, Repr

/-- A machine with an image as a configuration asks for it. The configuration is looked at first. -/
def build (files : Files) (image config : Value) (console : Console) :
    Except BuildFailure Machine :=
  match Config.load files config with
  | .error failure => .error (.config failure)
  | .ok config =>
    match Image.ofValue image with
    | .error error => .error (.image error)
    | .ok image => .ok (Machine.ofConfig image config console)

/-- With a configuration that is accepted, only the image can keep a machine from being built. -/
theorem build_of_loaded {files : Files} {config : Value} {settings : Config}
    (loaded : Config.load files config = .ok settings) (image : Value) (console : Console) :
    build files image config console =
      (Machine.ofValue image settings.keyboard (settings.stepLimit.map Int.ofNat)
        settings.haltMessage console).mapError .image := by
  rw [build, loaded, Machine.ofValue]
  cases Image.ofValue image <;> rfl

/-- Runs an image under a configuration to its end, if it has one. -/
def runImage (files : Files) (image config : Value) (console : Console) :
    Except BuildFailure (EStateM.Result Interrupt Machine (Option Outcome)) :=
  (build files image config console).map Exec.run

end Lc3
