import Lc3.Number.Power
import Lc3.Text.Basic
import Lc3.Text.Blank
import Lc3.Text.DecimalDigit

/-!
Integers written as text: blanks around it, an optional sign, an optional mark of the base, and
digits among which single underscores may stand.
-/

namespace Lc3.Numeral

/-- A text that is no numeral, or one with more decimal digits than are read. -/
inductive Defect
  | malformed
  | tooLong (digits : Nat)
  deriving DecidableEq, Repr

/-- Decimal digits beyond this number are neither read nor written. -/
def digitLimit : Nat := 4300

def malformedText (base : Nat) (shown : String) : String :=
  "invalid literal for int() with base " ++ toString base ++ ": " ++ shown

def limitText : String :=
  "Exceeds the limit (" ++ toString digitLimit ++ " digits) for integer string conversion"

def limitHint : String := "; use sys.set_int_max_str_digits() to increase the limit"

def tooLongText (digits : Nat) : String :=
  limitText ++ ": value has " ++ toString digits ++ " digits" ++ limitHint

def digit? (radix : Nat) (char : Char) : Option Nat :=
  let value :=
    if '0' ≤ char && char ≤ '9' then some (char.toNat - '0'.toNat)
    else if 'a' ≤ char && char ≤ 'z' then some (char.toNat - 'a'.toNat + 10)
    else if 'A' ≤ char && char ≤ 'Z' then some (char.toNat - 'A'.toNat + 10)
    else none
  value.filter (· < radix)

/-- The digits of a text that consists of digits and of single underscores between them. -/
def digits? (radix : Nat) : List Char → Option (List Nat)
  | [] => none
  | [char] => (digit? radix char).map ([·])
  | char :: '_' :: rest => do return (← digit? radix char) :: (← digits? radix rest)
  | char :: rest => do return (← digit? radix char) :: (← digits? radix rest)

def valueOf (radix : Nat) (digits : List Nat) : Nat :=
  digits.foldl (fun value digit => value * radix + digit) 0

def splitSign : List Char → Bool × List Char
  | '-' :: rest => (true, rest)
  | '+' :: rest => (false, rest)
  | text => (false, text)

def signed (negative : Bool) (magnitude : Nat) : Int :=
  if negative then -magnitude else magnitude

/-- The magnitude of a decimal numeral. Too many digits are a defect of their own even if
something that is no digit follows them. -/
def readDecimal (text : List Char) : Except Defect Nat :=
  let run := text.takeWhile fun char => char == '_' || (digit? 10 char).isSome
  match digits? 10 run with
  | none => .error .malformed
  | some digits =>
    if digitLimit < digits.length then .error (.tooLong digits.length)
    else if run.length < text.length then .error .malformed
    else .ok (valueOf 10 digits)

/-- The magnitude of a numeral in another base; an underscore may follow the mark of the base. -/
def readMarked (radix : Nat) (text : List Char) : Except Defect Nat :=
  let body := match text with
    | '_' :: rest => rest
    | _ => text
  match digits? radix body with
  | none => .error .malformed
  | some digits => .ok (valueOf radix digits)

/-- The base that a letter after a leading zero marks. -/
def radixOf? : Char → Option Nat
  | 'x' | 'X' => some 16
  | 'o' | 'O' => some 8
  | 'b' | 'B' => some 2
  | _ => none

/-- A decimal numeral that starts with a zero has no other value than zero. -/
def readZero (text : List Char) : Except Defect Nat := do
  if (← readDecimal text) = 0 then return 0 else throw .malformed

/-- The magnitude of a numeral whose base shows in its first characters. -/
def readMagnitude (text : List Char) : Except Defect Nat :=
  match text with
  | '0' :: mark :: rest =>
    match radixOf? mark with
    | some radix => readMarked radix rest
    | none => readZero text
  | _ => readDecimal text

/-- Blanks and digits of all scripts as ASCII ones. Other code points beyond ASCII become a
character that no numeral has. -/
def toAscii : CodePoint → Char
  | .surrogate _ => '?'
  | .character char =>
    if char.toNat < 0x7F then char
    else if Text.isWideBlank char then ' '
    else
      match Text.wideDigit? char with
      | some value => Char.ofNat ('0'.toNat + value)
      | none => '?'

/-- The integer that a text denotes, in the base that it shows. -/
def read (text : Text) : Except Defect Int :=
  let (negative, magnitude) := splitSign (Text.trim (text.map toAscii))
  (readMagnitude magnitude).map (signed negative)

/-- The integer that bytes denote: decimal digits and nothing but ASCII. -/
def readBytes (bytes : List UInt8) : Except Defect Int :=
  let text := bytes.map fun byte => Char.ofNat byte.toNat
  let (negative, magnitude) := splitSign (Text.trim text)
  (readDecimal magnitude).map (signed negative)

/-- Decimal digits of an integer, after the sign of a negative one. -/
def decimal (number : Int) : List Char :=
  let digits := Nat.toDigits 10 number.natAbs
  if number < 0 then '-' :: digits else digits

/-- The decimal numeral of an integer, if it has not too many digits to be written. -/
def write? (number : Int) : Option (List Char) :=
  if number.natAbs < tenTo digitLimit then some (decimal number) else none

end Lc3.Numeral
