import Lc3.Number.Numeral

/-!
Why a text is no document. Either its structure is at fault, or one of its scalars is well formed
and still denotes nothing.
-/

namespace Lc3.Yaml

inductive ScalarError
  | noDigits (radix : Nat)
  | tooManyDigits (count : Nat)
  /-- A power of sixty that is greater than all doubles. -/
  | powerTooLarge
  /-- An escape by a number beyond the last character. -/
  | noCharacter
  /-- An escape by a number of more than 31 bits. -/
  | codeTooLarge
  deriving DecidableEq, Repr

def ScalarError.message : ScalarError → String
  | .noDigits radix => Numeral.malformedText radix "''"
  | .tooManyDigits count => Numeral.tooLongText count
  | .powerTooLarge => "int too large to convert to float"
  | .noCharacter => "chr() arg not in range(0x110000)"
  | .codeTooLarge => "Python int too large to convert to C int"

inductive Defect
  | malformed
  | scalar (error : ScalarError)
  deriving DecidableEq, Repr

/-- Where there should be something and is nothing, the structure is at fault. -/
def Defect.ofOption (found : Option α) : Except Defect α :=
  match found with
  | some content => .ok content
  | none => .error .malformed

/-- Why a quoted scalar cannot be read. -/
inductive QuotedError
  | malformed
  /-- It denotes nothing, as is known when `position` characters of the text have been read. -/
  | broken (error : ScalarError) (position : Nat)
  deriving DecidableEq, Repr

def QuotedError.ofOption (found : Option α) : Except QuotedError α :=
  match found with
  | some content => .ok content
  | none => .error .malformed

end Lc3.Yaml
