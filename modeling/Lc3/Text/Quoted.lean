import Lc3.Number.Hex
import Lc3.Text.Basic
import Lc3.Text.Printable

/-!
Quoted forms of texts and of byte strings. The quotation mark is the single one, unless the text
holds that and not the double one; code points that would not show are written by number.
-/

namespace Lc3.Text

def quoteMark (text : Text) : Char :=
  if text.contains (.character '\x27') && !text.contains (.character '\x22') then '\x22' else '\x27'

/-- A code point by number: two, four or eight hexadecimal digits, as few as will do. -/
def escapeNumber (code : Nat) : List Char :=
  if code < 0x100 then ['\\', 'x'] ++ (hexDigits code 2).toList
  else if code < 0x10000 then ['\\', 'u'] ++ (hexDigits code 4).toList
  else ['\\', 'U'] ++ (hexDigits code 8).toList

/-- One code point of a quoted text in which `mark` has to be escaped. -/
def escape (isShown : Char → Bool) (mark : Char) : CodePoint → List Char
  | .surrogate index => escapeNumber (CodePoint.surrogate index).code
  | .character char =>
    if char = mark ∨ char = '\\' then ['\\', char]
    else if char = '\t' then ['\\', 't']
    else if char = '\n' then ['\\', 'n']
    else if char = '\r' then ['\\', 'r']
    else if isShown char then [char]
    else escapeNumber char.toNat

def quote (text : Text) : List Char :=
  let mark := quoteMark text
  mark :: text.flatMap (escape isPrintable mark) ++ [mark]

def isShownByte (char : Char) : Bool := ' ' ≤ char && char ≤ '~'

/-- A byte string, shown by the ASCII characters of its bytes. The mark that is escaped is the
surrounding one, or with `singleEscaped` always the single one. -/
def quoteBytes (bytes : List UInt8) (singleEscaped : Bool) : List Char :=
  let text : Text := bytes.map fun byte => .character (Char.ofNat byte.toNat)
  let mark := quoteMark text
  let escaped := if singleEscaped then '\x27' else mark
  ['b', mark] ++ text.flatMap (escape isShownByte escaped) ++ [mark]

/-- A text in which what is no character is written by number. -/
def visible (text : Text) : String :=
  String.ofList (text.flatMap fun point =>
    match point with
    | .character char => [char]
    | .surrogate _ => escapeNumber point.code)

end Lc3.Text
