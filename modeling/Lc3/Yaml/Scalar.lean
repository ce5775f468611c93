import Lc3.Yaml.Cursor
import Lc3.Yaml.Defect

/-!
Scalars as they are written: quoted ones, which may escape characters, and plain ones, which end
where the structure of the document goes on. A line break inside a scalar folds into a space, and
several fold into one less than their number.
-/

namespace Lc3.Yaml

/-- Line breaks that follow each other, with the blanks between them. -/
structure Fold where
  breaks : List Char
  cursor : Cursor

def Fold.prepend (char : Char) (fold : Fold) : Fold :=
  { fold with breaks := breakText char :: fold.breaks }

/-- The text of a line break and of those behind it. -/
def foldText (first : Char) (others : List Char) : List Char :=
  if breakText first ≠ '\n' then breakText first :: others
  else if others.isEmpty then [' ']
  else others

/-! ### Quoted scalars -/

def hexValue? (digits : List Char) : Option Nat := do
  return Numeral.valueOf 16 (← digits.mapM (Numeral.digit? 16))

def shortEscape? : Char → Option Char
  | '0' => some (Char.ofNat 0)
  | 'a' => some (Char.ofNat 7)
  | 'b' => some (Char.ofNat 8)
  | 't' | '\t' => some '\t'
  | 'n' => some '\n'
  | 'v' => some (Char.ofNat 11)
  | 'f' => some (Char.ofNat 12)
  | 'r' => some '\r'
  | 'e' => some (Char.ofNat 27)
  | ' ' => some ' '
  | '\x22' => some '\x22'
  | '\\' => some '\\'
  | '/' => some '/'
  | 'N' => some (Char.ofNat 0x85)
  | '_' => some (Char.ofNat 0xA0)
  | 'L' => some (Char.ofNat 0x2028)
  | 'P' => some (Char.ofNat 0x2029)
  | _ => none

/-- How many digits follow the letter of an escape by number. -/
def numberEscapeWidth? : Char → Option Nat
  | 'x' => some 2
  | 'u' => some 4
  | 'U' => some 8
  | _ => none

/-- The number of an escape that starts with its letter, and how many characters it takes. -/
def numberEscape? : List Char → Option (Nat × Nat)
  | [] => none
  | letter :: rest => do
    let width ← numberEscapeWidth? letter
    guard (width ≤ rest.length)
    return (← hexValue? (rest.take width), width + 1)

/-- The code point that an escape names, which need not be a character. -/
def namedPoint (code : Nat) : Except ScalarError CodePoint :=
  match CodePoint.ofCode? code with
  | some point => .ok point
  | none => .error (if code < 0x80000000 then .noCharacter else .codeTooLarge)

/-- Passes line breaks and blanks inside a quoted scalar; a document marker may not stand there. -/
def quotedBreaks : Nat → Cursor → Option Fold
  | 0, _ => none
  | fuel + 1, cursor =>
    if startsAnyMarker cursor.rest then none
    else
      let cursor := cursor.skipWhile fun char => char == ' ' || char == '\t'
      match cursor.rest with
      | char :: _ =>
        if isBreak char then
          (quotedBreaks fuel cursor.next).map (Fold.prepend char)
        else some ⟨[], cursor⟩
      | [] => some ⟨[], cursor⟩

/-- The content of a quoted scalar, on top of `content`, which stands in reverse, and the place
behind its closing mark. -/
def quotedFrom (mark : Char) (content : Text) : Nat → Cursor → Except QuotedError (Text × Cursor)
  | 0, _ => .error .malformed
  | fuel + 1, cursor =>
    match cursor.rest with
    | [] => .error .malformed
    | char :: rest =>
      if char == ' ' || char == '\t' then
        let after := cursor.skipWhile fun char => char == ' ' || char == '\t'
        match after.rest with
        | [] => .error .malformed
        | following :: _ =>
          if isBreak following then quotedFrom mark content fuel after
          else
            quotedFrom mark ((Text.ofChars (cursor.upTo after)).reverse ++ content) fuel after
      else if isBreak char then do
        let fold ← QuotedError.ofOption (quotedBreaks fuel cursor.next)
        quotedFrom mark ((Text.ofChars (foldText char fold.breaks)).reverse ++ content) fuel
          fold.cursor
      else if char == mark then
        match mark, rest with
        | '\x27', '\x27' :: _ =>
          quotedFrom mark (.character '\x27' :: content) fuel (cursor.skip 2)
        | _, _ => .ok (content.reverse, cursor.next)
      else if mark == '\x22' && char == '\\' then
        match rest with
        | [] => .error .malformed
        | letter :: _ =>
          match shortEscape? letter with
          | some escaped => quotedFrom mark (.character escaped :: content) fuel (cursor.skip 2)
          | none =>
            if isBreak letter then do
              let fold ← QuotedError.ofOption (quotedBreaks fuel (cursor.skip 2))
              quotedFrom mark ((Text.ofChars fold.breaks).reverse ++ content) fuel fold.cursor
            else do
              let (code, width) ← QuotedError.ofOption (numberEscape? rest)
              let after := cursor.skip (1 + width)
              match namedPoint code with
              | .ok point => quotedFrom mark (point :: content) fuel after
              | .error error => throw (.broken error after.index)
      else quotedFrom mark (.character char :: content) fuel cursor.next

/-- A quoted scalar that starts at its opening mark. -/
def readQuoted (mark : Char) (cursor : Cursor) : Except QuotedError (Text × Cursor) :=
  quotedFrom mark [] (cursor.rest.length + 1) cursor.next

/-! ### Plain scalars -/

/-- Whether a plain scalar inside brackets ends before the character. -/
def endsFlowWord (char : Char) : Bool :=
  char == ',' || char == '?' || char == '[' || char == ']' || char == '\x7b' || char == '\x7d'

/-- Whether what follows a colon makes it the sign of a value. -/
def followsValueSign (inFlow : Bool) (rest : List Char) : Bool :=
  startsBlank rest || inFlow && match rest with
    | char :: _ => char == ',' || char == '[' || char == ']' || char == '\x7b' || char == '\x7d'
    | [] => true

/-- The part of a plain scalar up to a blank or to its end. -/
def plainWord (inFlow : Bool) : List Char → List Char
  | [] => []
  | char :: rest =>
    if char == ' ' || char == '\t' || isBreak char then []
    else if char == ':' && followsValueSign inFlow rest then []
    else if inFlow && endsFlowWord char then []
    else char :: plainWord inFlow rest

/-- Passes spaces and line breaks behind a line break in a plain scalar. Gives no fold where a
document marker starts a line, but the place of that line. -/
def plainBreaks : Nat → Cursor → Except Cursor Fold
  | 0, cursor => .error cursor
  | fuel + 1, cursor =>
    let cursor := cursor.skipWhile (· == ' ')
    match cursor.rest with
    | char :: _ =>
      if isBreak char then
        let after := cursor.next
        if startsAnyMarker after.rest then .error after
        else (plainBreaks fuel after).map (Fold.prepend char)
      else .ok ⟨[], cursor⟩
    | [] => .ok ⟨[], cursor⟩

/-- What stands between two words of a plain scalar. -/
structure Gap where
  text : List Char
  cursor : Cursor
  hasBreak : Bool

def plainGap (cursor : Cursor) : Gap :=
  let after := cursor.skipWhile (· == ' ')
  match after.rest with
  | char :: _ =>
    if isBreak char then
      let start := after.next
      if startsAnyMarker start.rest then ⟨[], start, true⟩
      else
        match plainBreaks (start.rest.length + 1) start with
        | .error place => ⟨[], place, true⟩
        | .ok fold => ⟨foldText char fold.breaks, fold.cursor, true⟩
    else ⟨cursor.upTo after, after, false⟩
  | [] => ⟨cursor.upTo after, after, false⟩

/-- A plain scalar, the place behind it, and whether that is on a new line. -/
structure Plain where
  text : List Char
  cursor : Cursor
  hasBreak : Bool

/-- The rest of a plain scalar whose words, from `indent` columns on, go on behind a gap. -/
def plainFrom (inFlow : Bool) (indent : Int) (content gap : List Char) (hasBreak : Bool) :
    Nat → Cursor → Plain
  | 0, cursor => ⟨content, cursor, hasBreak⟩
  | fuel + 1, cursor =>
    let word := plainWord inFlow cursor.rest
    if word.isEmpty || cursor.rest.head? == some '\x23' then ⟨content, cursor, hasBreak⟩
    else
      let content := content ++ gap ++ word
      let next := plainGap (cursor.skip word.length)
      if next.text.isEmpty || next.cursor.rest.head? == some '\x23' ||
          (!inFlow && (next.cursor.column : Int) < indent) then
        ⟨content, next.cursor, next.hasBreak⟩
      else plainFrom inFlow indent content next.text next.hasBreak fuel next.cursor

def readPlain (inFlow : Bool) (indent : Int) (cursor : Cursor) : Plain :=
  plainFrom inFlow indent [] [] false (cursor.rest.length + 1) cursor

end Lc3.Yaml
