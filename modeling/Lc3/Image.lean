import Lc3.Value.Basic
import Lc3.Word

/-!
Program images: the origin and the words to be placed from there on, written as pairs of bytes, the
high one first.
-/

namespace Lc3

structure Image where
  origin : Word
  words : List Word
  deriving DecidableEq, Repr

inductive ImageError
  | notBytes (kind : String)
  | missingOrigin
  | truncated (size : Nat)
  deriving DecidableEq, Repr

def ImageError.message : ImageError → String
  | .notBytes kind => "Image is not a byte sequence: " ++ kind
  | .missingOrigin => "Image too short: missing origin word"
  | .truncated size => "Image truncated mid-word (" ++ toString size ++ " bytes)"

namespace Image

def encodeWord (word : Word) : List UInt8 :=
  [UInt8.ofNat (word.toNat / 256), UInt8.ofNat (word.toNat % 256)]

def pair (high low : UInt8) : Word := BitVec.ofNat 16 (high.toNat * 256 + low.toNat)

theorem toNat_pair (high low : UInt8) :
    (pair high low).toNat = high.toNat * 256 + low.toNat := by
  have highBound := high.toNat_lt
  have lowBound := low.toNat_lt
  rw [pair, BitVec.toNat_ofNat]
  omega

def encode (image : Image) : List UInt8 :=
  encodeWord image.origin ++ image.words.flatMap encodeWord

/-- Words from pairs of bytes, on top of those already read, which stand in reverse. A last byte
without a partner is left over. -/
def wordsOnto (read : List Word) : List UInt8 → List Word
  | high :: low :: rest => wordsOnto (pair high low :: read) rest
  | _ => read.reverse

def decode (bytes : List UInt8) : Except ImageError Image :=
  match bytes with
  | high :: low :: rest =>
    if bytes.length % 2 = 0 then .ok ⟨pair high low, wordsOnto [] rest⟩
    else .error (.truncated bytes.length)
  | _ => .error .missingOrigin

/-- The image that a value holds, which has to be bytes of some form. -/
def ofValue : Value → Except ImageError Image
  | .bytes _ content => decode content
  | value => .error (.notBytes value.kind)

end Image

end Lc3
