import Lc3.Number.Numeral
import Lc3.Number.Shortest
import Lc3.Text.Quoted
import Lc3.Value.Basic

/-!
The text of a value. Inside lists and mappings texts are quoted; a text by itself stands as it is.
Only a value that holds an integer too long to be written has no text.
-/

namespace Lc3.Value

/-- Floats are positional from 0.0001 up to sixteen digits before the point, and exponents have at
least two digits. -/
def floatLayout : Binary64.Layout := ⟨-3, 16, 2⟩

def commaSeparated (parts : List (List Char)) : List Char :=
  (parts.intersperse [',', ' ']).flatten

mutual

def quoted? : Value → Option (List Char)
  | .null => some "None".toList
  | .bool true => some "True".toList
  | .bool false => some "False".toList
  | .int number => Numeral.write? number
  | .float number => some (floatLayout.text number).toList
  | .text content => some (Text.quote content)
  | .bytes .constant content => some (Text.quoteBytes content false)
  | .bytes .mutable content =>
    some ("bytearray(".toList ++ Text.quoteBytes content true ++ [')'])
  | .bytes .view _ => some "<memory>".toList
  | .list items => do
    return '[' :: commaSeparated (← quotedItems? items) ++ [']']
  | .mapping entries => do
    return '\x7b' :: commaSeparated (← quotedEntries? entries) ++ ['\x7d']

def quotedItems? : List Value → Option (List (List Char))
  | [] => some []
  | item :: items => do return (← quoted? item) :: (← quotedItems? items)

def quotedEntries? : List (Value × Value) → Option (List (List Char))
  | [] => some []
  | (key, value) :: entries => do
    return ((← quoted? key) ++ [':', ' '] ++ (← quoted? value)) :: (← quotedEntries? entries)

end

def shown? : Value → Option Text
  | .text content => some content
  | value => (quoted? value).map Text.ofChars

end Lc3.Value
