import Lc3.Yaml.Content
import Lc3.Yaml.Portion

/-!
Documents in files: UTF-8 text without control characters that holds at most one document.
-/

namespace Lc3.Yaml

def isAllowed (char : Char) : Bool :=
  let code := char.toNat
  code == 0x09 || code == 0x0A || code == 0x0D || (0x20 ≤ code && code ≤ 0x7E) || code == 0x85 ||
    (0xA0 ≤ code && code ≤ 0xD7FF) || (0xE000 ≤ code && code ≤ 0xFFFD) || 0x10000 ≤ code

/-- The value of the document in a text of allowed characters. A text without a document has the
value `null`. -/
def ofText (text : List Char) : Except Defect Value := do
  let node ← Node.ofTokens (← tokens text)
  node.value.mapError (·.defect)

/-- What is wrong with a document of which no more than `text` can be had. That is the defect,
unless a scalar is refused before the portion behind `text` is taken. -/
def defectBeyond (text : List Char) : Defect :=
  match tokens text with
  | .error defect => defect
  | .ok tokens =>
    match tokens.getLast?, Node.ofTokens tokens with
    | some (.broken _ position), .error defect =>
      if taken position ≤ text.length then defect else .malformed
    | _, _ => .malformed

def ofBytes (bytes : List UInt8) : Except Defect Value :=
  match Utf8.decode? bytes with
  | some (text, .whole) =>
    let text := Text.unifyNewlines text
    if text.all isAllowed then ofText text
    else .error (defectBeyond (text.takeWhile isAllowed))
  | _ => .error (defectBeyond ((readable bytes).takeWhile isAllowed))

end Lc3.Yaml
