import Mathlib
import Lc3.Proofs.AcceptedMapping

/-!
Configuration files. A file loads as the mapping that its document is, and a document that counts
as absent loads as the defaults; just the other documents are refused as no mappings. An empty list
is no mapping either, but it counts as absent.
-/

namespace Lc3

namespace Value

end Value

namespace Yaml

end Yaml

namespace Config

section

variable {files : Files} {name : String} {content : List UInt8} {document : Value}
  (stands : files.lookUp (Path.ofName name) = .ok (.file content))
  (means : Yaml.ofBytes content = .ok document)

include stands means

end

end Config

end Lc3
