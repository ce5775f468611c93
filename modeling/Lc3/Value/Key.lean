import Lc3.Value.Basic

/-!
Values as the keys of a mapping: when two keys are the same, and how keys of one kind are ordered.
All numbers are of one kind, and truth values count as numbers.
-/

namespace Lc3.Value

/-- The place of a number among all numbers: below, among or above the finite ones, and among
those in units of `2 ^ -1074`. -/
def rank? : Value → Option (Int × Int)
  | .bool truth => some (0, if truth then twoTo 1074 else 0)
  | .int number => some (0, number * twoTo 1074)
  | .float (.finite negative mantissa exponent) =>
    some (0, Binary64.units negative mantissa exponent)
  | .float (.infinite negative) => some (if negative then -1 else 1, 0)
  | _ => none

def isNumber : Value → Bool
  | .bool _ | .int _ | .float _ => true
  | _ => false

def text? : Value → Option Text
  | .text content => some content
  | _ => none

/-- Bytes that do not change. Only those can be keys. -/
def bytes? : Value → Option (List UInt8)
  | .bytes .constant content => some content
  | _ => none

def isSameKey : Value → Value → Bool
  | .null, .null | .float .nan, .float .nan => true
  | .text left, .text right => left == right
  | .bytes .constant left, .bytes .constant right => left == right
  | left, right =>
    match left.rank?, right.rank? with
    | some left, some right => left == right
    | _, _ => false

/-- Whether a number does not stand above another one. -/
def isAtMost (left right : Value) : Bool :=
  match left.rank?, right.rank? with
  | some left, some right => left.1 < right.1 || (left.1 == right.1 && left.2 ≤ right.2)
  | _, _ => true

/-- Keys in order, if they can be compared: numbers by value, texts by their code points, and
bytes one by one. -/
def sortKeys? (keys : List Value) : Option (List Value) :=
  if keys.length ≤ 1 then some keys
  else if keys.all isNumber then some (keys.mergeSort isAtMost)
  else
    match keys.mapM text?, keys.mapM bytes? with
    | some texts, _ => some ((texts.mergeSort Text.isAtMost).map .text)
    | none, some contents =>
      some ((contents.mergeSort fun left right => left ≤ right).map (.bytes .constant))
    | none, none => none

/-- Puts a value under a key: in the place of the key, or behind all others. -/
def put (key value : Value) : List (Value × Value) → List (Value × Value)
  | [] => [(key, value)]
  | (other, old) :: entries =>
    if other.isSameKey key then (other, value) :: entries
    else (other, old) :: put key value entries

/-- Entries with every key once; the last value given for a key stays. -/
def collect (entries : List (Value × Value)) : List (Value × Value) :=
  entries.foldl (fun collected (key, value) => put key value collected) []

end Lc3.Value
