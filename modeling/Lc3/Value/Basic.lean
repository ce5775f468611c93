import Lc3.Number.Binary64
import Lc3.Text.Basic

/-!
Values as configurations hold them, before they are given a type.
-/

namespace Lc3

/-- The three forms in which a sequence of bytes may come. -/
inductive ByteForm
  | constant
  | mutable
  | view
  deriving DecidableEq, Repr

inductive Value
  | null
  | bool (truth : Bool)
  | int (number : Int)
  | float (number : Binary64)
  | text (content : Text)
  | bytes (form : ByteForm) (content : List UInt8)
  | list (items : List Value)
  | mapping (entries : List (Value × Value))
  deriving Repr, Inhabited

namespace Value

/-- The name of a value's type, as error messages give it. -/
def kind : Value → String
  | .null => "NoneType"
  | .bool _ => "bool"
  | .int _ => "int"
  | .float _ => "float"
  | .text _ => "str"
  | .bytes .constant _ => "bytes"
  | .bytes .mutable _ => "bytearray"
  | .bytes .view _ => "memoryview"
  | .list _ => "list"
  | .mapping _ => "dict"

/-- Whether a value counts as absent: nothing, zero, or a container without content. -/
def isEmpty : Value → Bool
  | .null => true
  | .bool truth => !truth
  | .int number => number == 0
  | .float number => number.isZero
  | .text content => content.isEmpty
  | .bytes _ content => content.isEmpty
  | .list items => items.isEmpty
  | .mapping entries => entries.isEmpty

end Value

end Lc3
