/-!
Texts. A text is a sequence of code points. Most of them are characters, but a document can also
name the halves of surrogate pairs. Those are no characters: no encoding has them, yet they can be
stored, compared and shown by number. Two of them do not become one character.
-/

namespace Lc3

inductive CodePoint
  | character (char : Char)
  /-- The code point `0xD800 + index`. -/
  | surrogate (index : Fin 0x800)
  deriving DecidableEq, Repr

namespace CodePoint

def code : CodePoint → Nat
  | .character char => char.toNat
  | .surrogate index => 0xD800 + index

/-- The code point with that number, if it is not beyond the last one. -/
def ofCode? (code : Nat) : Option CodePoint :=
  if valid : code.isValidChar then some (.character (Char.ofNatAux code valid))
  else if inRange : 0xD800 ≤ code ∧ code < 0xE000 then
    some (.surrogate ⟨code - 0xD800, by omega⟩)
  else none

def char? : CodePoint → Option Char
  | .character char => some char
  | .surrogate _ => none

end CodePoint

abbrev Text := List CodePoint

namespace Text

def ofChars (chars : List Char) : Text := chars.map .character

def ofString (string : String) : Text := ofChars string.toList

/-- The characters of a text that has nothing else. -/
def toChars? (text : Text) : Option (List Char) := text.mapM CodePoint.char?

def toString? (text : Text) : Option String := text.toChars?.map String.ofList

@[simp] theorem toChars?_ofChars (chars : List Char) : (ofChars chars).toChars? = some chars := by
  induction chars with
  | nil => rfl
  | cons char chars ih =>
      simp_all [ofChars, toChars?, CodePoint.char?]

@[simp] theorem toString?_ofString (string : String) :
    (ofString string).toString? = some string := by
  simp [ofString, toString?]

/-- Texts are ordered by the numbers of their code points. -/
def isAtMost : Text → Text → Bool
  | [], _ => true
  | _ :: _, [] => false
  | left :: lefts, right :: rights =>
    left.code < right.code || (left.code == right.code && isAtMost lefts rights)

end Text

end Lc3
