import Lc3.Value.Key
import Lc3.Yaml.Node
import Lc3.Yaml.Resolution

/-!
What the nodes of a document hold. Of several flaws the one that lies least deep is reported, since
a collection is looked at as a whole before anything inside its members is.
-/

namespace Lc3.Yaml

/-- A defect in a node, and how deep inside it the defect lies. -/
structure Flaw where
  depth : Nat
  defect : Defect
  deriving DecidableEq, Repr

namespace Flaw

/-- What two parts come to together. Of two flaws the less deep one counts, and the first of two
that are equally deep. -/
def join (combine : α → β → γ) : Except Flaw α → Except Flaw β → Except Flaw γ
  | .ok first, .ok second => .ok (combine first second)
  | .error flaw, .ok _ | .ok _, .error flaw => .error flaw
  | .error first, .error second =>
    .error (if second.depth < first.depth then second else first)

def nest (content : Except Flaw α) : Except Flaw α :=
  content.mapError fun flaw => { flaw with depth := flaw.depth + 1 }

def here (content : Except Defect α) : Except Flaw α := content.mapError (⟨0, ·⟩)

end Flaw

namespace Node

def isMerge : Node → Bool
  | .plain text => text == ['<', '<']
  | _ => false

/-- The key that a node stands for. A collection cannot be a key, and the mark of a default is a
text here. -/
def keyValue : Node → Except Defect Value
  | .plain text => if text = ['='] then .ok (.text (Text.ofChars text)) else plainValue text
  | .quoted text => .ok (.text text)
  | .sequence _ | .mapping _ => .error .malformed

mutual

def value : Node → Except Flaw Value
  | .plain text => Flaw.here (plainValue text)
  | .quoted text => .ok (.text text)
  | .sequence items => Flaw.nest ((itemValues items).map .list)
  | .mapping entries =>
    if entries.any fun (key, _) => key.isMerge then .error ⟨1, .malformed⟩
    else Flaw.nest ((entryValues entries).map fun entries => .mapping (Value.collect entries))

def itemValues : List Node → Except Flaw (List Value)
  | [] => .ok []
  | item :: items => Flaw.join List.cons item.value (itemValues items)

def entryValues : List (Node × Node) → Except Flaw (List (Value × Value))
  | [] => .ok []
  | (key, value) :: entries =>
    Flaw.join List.cons (Flaw.join Prod.mk (Flaw.here key.keyValue) value.value)
      (entryValues entries)

end

end Node

end Lc3.Yaml
