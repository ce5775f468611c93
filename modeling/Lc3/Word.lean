/-!
Sixteen-bit machine words. An integer of any size denotes the word it is congruent to modulo
65536, and a word denotes a signed integer by two's complement.
-/

namespace Lc3

abbrev Word := BitVec 16

def wordBits : Nat := 16

def greatestWord : Word := BitVec.allOnes 16

def signBit : Word := 0x8000

/-- The word congruent to `value` modulo 65536. -/
def wordOf (value : Int) : Word := BitVec.ofInt 16 value

theorem toNat_wordOf (value : Int) : ((wordOf value).toNat : Int) = value % 65536 := by
  simp only [wordOf, BitVec.toNat_ofInt]
  omega

@[simp] theorem wordOf_toNat (word : Word) : wordOf word.toNat = word := by
  simp [wordOf]

/-- A bit field must have at least one bit to carry a sign. -/
inductive FieldError
  | noSignBit
  deriving DecidableEq, Repr

def FieldError.message : FieldError → String
  | .noSignBit => "negative shift count"

/-- Widens the low `width` bits of `value` to a word by repeating the topmost of them. A field
wider than a word loses its high bits. -/
def signExtend (value width : Int) : Except FieldError Word :=
  if 0 < width then
    .ok ((BitVec.ofInt width.toNat value).signExtend 16)
  else
    .error .noSignBit

/-- A field is extended as the number that its bits form. -/
theorem signExtend_toNat {width : Nat} (positive : 0 < width) (field : BitVec width) :
    signExtend field.toNat width = .ok (field.signExtend 16) := by
  rw [signExtend, if_pos (by omega), Int.toNat_natCast, BitVec.ofInt_natCast, BitVec.ofNat_toNat,
    BitVec.setWidth_eq]

/-- The number that a word denotes by two's complement. -/
def signedOf (word : Word) : Int :=
  if word &&& signBit = 0 then word.toNat else word.toNat - 65536

theorem signedOf_eq_toInt (word : Word) : signedOf word = word.toInt := by
  have bit : word &&& signBit = if word.msb then signBit else 0 := by
    rw [BitVec.msb_eq_getLsbD_last]
    exact BitVec.and_twoPow word 15
  rw [signedOf, bit, BitVec.toInt_eq_msb_cond]
  cases word.msb <;> rfl

/-- Stands for a code that no character has. -/
def replacementChar : Char := Char.ofNat 0xFFFD

/-- The character of a code. The codes of surrogates have none. -/
def charOf (word : Word) : Char :=
  if valid : word.toNat.isValidChar then Char.ofNatAux word.toNat valid else replacementChar

end Lc3
