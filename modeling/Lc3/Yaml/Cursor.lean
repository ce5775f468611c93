/-!
Places in the text of a document. A place knows its line and column, since the structure of a
document shows in its indentation.
-/

namespace Lc3.Yaml

structure Cursor where
  rest : List Char
  index : Nat
  line : Nat
  column : Nat

def byteOrderMark : Char := Char.ofNat 0xFEFF

def isBreak (char : Char) : Bool :=
  char == '\n' || char.toNat == 0x85 || char.toNat == 0x2028 || char.toNat == 0x2029

/-- What a line break stands for in a scalar: a newline, except that the separators of Unicode
stand for themselves. -/
def breakText (char : Char) : Char :=
  if char.toNat == 0x85 then '\n' else char

/-- Whether nothing, a blank or a line break comes first. -/
def startsBlank : List Char → Bool
  | [] => true
  | char :: _ => char == ' ' || char == '\t' || isBreak char

/-- Whether the text starts with a document marker, three of one character before a blank. -/
def startsMarker (char : Char) : List Char → Bool
  | first :: second :: third :: rest =>
    first == char && second == char && third == char && startsBlank rest
  | _ => false

def startsAnyMarker (text : List Char) : Bool := startsMarker '-' text || startsMarker '.' text

namespace Cursor

def start (text : List Char) : Cursor := ⟨text, 0, 0, 0⟩

/-- The place behind the next character. A byte order mark takes no column. -/
def next (cursor : Cursor) : Cursor :=
  match cursor.rest with
  | [] => cursor
  | char :: rest =>
    if isBreak char then ⟨rest, cursor.index + 1, cursor.line + 1, 0⟩
    else
      let width := if char = byteOrderMark then 0 else 1
      ⟨rest, cursor.index + 1, cursor.line, cursor.column + width⟩

def skip (cursor : Cursor) : Nat → Cursor
  | 0 => cursor
  | count + 1 => cursor.next.skip count

def skipWhile (pass : Char → Bool) (cursor : Cursor) : Cursor :=
  cursor.skip (cursor.rest.takeWhile pass).length

/-- The characters between a place and a later one. -/
def upTo (first last : Cursor) : List Char := first.rest.take (last.index - first.index)

end Cursor

end Lc3.Yaml
