import Lc3.Value.Basic
import Lc3.Yaml.Defect

/-!
The values of scalars. A quoted scalar is a text; a plain one is whatever its spelling resembles:
nothing, a truth value, an integer in one of five notations, a float, or else a text.
-/

namespace Lc3.Yaml

def nullValue? (text : String) : Option Value :=
  if ["", "~", "null", "Null", "NULL"].contains text then some .null else none

def boolValue? (text : String) : Option Value :=
  if ["yes", "Yes", "YES", "true", "True", "TRUE", "on", "On", "ON"].contains text then
    some (.bool true)
  else if ["no", "No", "NO", "false", "False", "FALSE", "off", "Off", "OFF"].contains text then
    some (.bool false)
  else none

/-! ### Integers -/

/-- Whether all characters are digits of a base or underscores. -/
def isGrouped (radix : Nat) (text : List Char) : Bool :=
  text.all fun char => char == '_' || (Numeral.digit? radix char).isSome

def ungroup (text : List Char) : List Char := text.filter (· != '_')

/-- The value of digits among which underscores may stand anywhere. -/
def groupedValue (radix : Nat) (text : List Char) : Nat :=
  Numeral.valueOf radix ((ungroup text).filterMap (Numeral.digit? radix))

/-- A number in another base, which may turn out to have underscores only. -/
def markedValue (radix : Nat) (text : List Char) : Except ScalarError Nat :=
  if (ungroup text).isEmpty then .error (.noDigits radix) else .ok (groupedValue radix text)

/-- A decimal number, unless it has too many digits. -/
def decimalValue (text : List Char) : Except ScalarError Nat :=
  let count := (ungroup text).length
  if Numeral.digitLimit < count then .error (.tooManyDigits count)
  else .ok (groupedValue 10 text)

/-- A digit other than zero and more digits or underscores. -/
def isCounting : List Char → Bool
  | first :: rest => '1' ≤ first && first ≤ '9' && isGrouped 10 rest
  | [] => false

def colonParts (text : List Char) : List (List Char) :=
  text.foldr (fun char parts =>
    match parts with
    | part :: parts => if char == ':' then [] :: part :: parts else (char :: part) :: parts
    | [] => []) [[]]

def isSixtieth : List Char → Bool
  | [units] => (Numeral.digit? 10 units).isSome
  | [tens, units] => (Numeral.digit? 6 tens).isSome && (Numeral.digit? 10 units).isSome
  | _ => false

/-- The value of a number in base sixty, the parts of which are decimal. -/
def sexagesimalValue (parts : List (List Char)) : Except ScalarError Nat := do
  return Numeral.valueOf 60 (← parts.mapM decimalValue)

/-- An integer, if the text is spelt like one; its spelling shows before its value does. -/
def integer? (text : List Char) : Option (Except ScalarError Int) :=
  let (negative, body) := Numeral.splitSign text
  let magnitude : Option (Except ScalarError Nat) :=
    match body with
    | '0' :: 'b' :: digit :: digits =>
      if isGrouped 2 (digit :: digits) then some (markedValue 2 (digit :: digits)) else none
    | '0' :: 'x' :: digit :: digits =>
      if isGrouped 16 (digit :: digits) then some (markedValue 16 (digit :: digits)) else none
    | '0' :: digits => if isGrouped 8 digits then some (.ok (groupedValue 8 digits)) else none
    | _ =>
      match colonParts body with
      | [_] => if isCounting body then some (decimalValue body) else none
      | first :: parts =>
        if isCounting first && parts.all isSixtieth then some (sexagesimalValue (first :: parts))
        else none
      | [] => none
  magnitude.map fun magnitude => magnitude.map (Numeral.signed negative)

/-! ### Floats -/

/-- An exponent: nothing, or a letter, a sign and digits. -/
def exponent? : List Char → Option Int
  | [] => some 0
  | letter :: sign :: digits => do
    guard ((letter == 'e' || letter == 'E') && (sign == '+' || sign == '-'))
    guard (digits ≠ [])
    let digits ← digits.mapM (Numeral.digit? 10)
    return Numeral.signed (sign == '-') (Numeral.valueOf 10 digits)
  | _ => none

/-- The double nearest to digits before and behind the point times a power of ten. -/
def pointValue (whole fraction : List Char) (exponent : Int) : Binary64 :=
  Binary64.ofDecimal false (groupedValue 10 (whole ++ fraction))
    (exponent - (ungroup fraction).length)

/-- A magnitude with a point: digits on one side of it at least, and an exponent behind. -/
def pointFloat? (body : List Char) : Option Binary64 := do
  let isDigit := fun char => char == '_' || (Numeral.digit? 10 char).isSome
  let whole := body.takeWhile isDigit
  match body.dropWhile isDigit with
  | '.' :: rest =>
    let fraction := rest.takeWhile isDigit
    let exponent ← exponent? (rest.dropWhile isDigit)
    let lead := if whole.isEmpty then fraction.head? else whole.head?
    guard (lead.any (· != '_'))
    return pointValue whole fraction exponent
  | _ => none

/-- Adds the parts of a number in base sixty to `sum`. The first part counts as often as `weight`
says, and each one behind it sixty times as often as the part before. -/
def addSixtieths (sum : Binary64) (weight : Nat) : List Nat → Except ScalarError Binary64
  | [] => .ok sum
  | part :: parts =>
    match Binary64.ofNat weight with
    | .infinite _ => .error .powerTooLarge
    | factor => addSixtieths (sum.add ((Binary64.ofNat part).multiply factor)) (weight * 60) parts

/-- A magnitude in base sixty whose last part has a point. -/
def sexagesimalFloat? (body : List Char) : Option (Except ScalarError Binary64) := do
  match body.takeWhile (· != '.'), body.dropWhile (· != '.') with
  | whole, '.' :: fraction =>
    match (colonParts whole).reverse with
    | last :: earlier =>
      let first ← earlier.getLast?
      guard (first.head?.any (· != '_') && isGrouped 10 first)
      guard ((last :: earlier.dropLast).all isSixtieth && isGrouped 10 fraction)
      return addSixtieths (pointValue last fraction 0) 60 (earlier.map (groupedValue 10))
    | [] => none
  | _, _ => none

/-- A float, if the text is spelt like one. One that starts with its point takes no sign. -/
def float? (text : List Char) : Option (Except ScalarError Binary64) :=
  let (negative, body) := Numeral.splitSign text
  let magnitude : Option (Except ScalarError Binary64) :=
    if [".inf", ".Inf", ".INF"].contains (String.ofList body) then some (.ok (.infinite false))
    else if [".nan", ".NaN", ".NAN"].contains (String.ofList text) then some (.ok .nan)
    else
      match pointFloat? body with
      | some magnitude =>
        if body.head? == some '.' && body.length != text.length then none
        else some (.ok magnitude)
      | none => sexagesimalFloat? body
  magnitude.map fun magnitude =>
    magnitude.map fun magnitude => if negative then magnitude.negate else magnitude

/-! ### Plain scalars -/

/-- The mark of a merge and that of a default denote no value. -/
def isMark (text : String) : Bool := text == "<<" || text == "="

def plainValue (text : List Char) : Except Defect Value :=
  let content := String.ofList text
  if isMark content then .error .malformed
  else
    let value : Option (Except ScalarError Value) :=
      ((nullValue? content).map .ok) <|> ((boolValue? content).map .ok) <|>
        ((float? text).map fun number => number.map .float) <|>
        ((integer? text).map fun number => number.map .int)
    match value with
    | some result => result.mapError .scalar
    | none => .ok (.text (Text.ofChars text))

end Lc3.Yaml
