/-!
Decoding of UTF-8 from a list of bytes. Decoding tells three cases apart: bytes that are complete
text, bytes that are text up to a last character of which some bytes are missing, and bytes that
are not UTF-8 whatever may follow them.
-/

namespace Lc3.Utf8

structure Span where
  least : UInt8
  greatest : UInt8
  deriving DecidableEq, Repr

def Span.holds (span : Span) (byte : UInt8) : Bool :=
  span.least ≤ byte && byte ≤ span.greatest

/-- The bytes after the first two of a character. -/
def continuation : Span := ⟨0x80, 0xBF⟩

/-- What a first byte contributes to the code point, and the spans of the bytes that must follow
it. The span of the second byte keeps out overlong forms, surrogates and what is beyond the last
code point. -/
def lead? (byte : UInt8) : Option (Nat × List Span) :=
  if byte < 0x80 then some (byte.toNat, [])
  else if byte < 0xC2 then none
  else if byte < 0xE0 then some (byte.toNat - 0xC0, [continuation])
  else if byte = 0xE0 then some (0, [⟨0xA0, 0xBF⟩, continuation])
  else if byte = 0xED then some (13, [⟨0x80, 0x9F⟩, continuation])
  else if byte < 0xF0 then some (byte.toNat - 0xE0, [continuation, continuation])
  else if byte = 0xF0 then some (0, [⟨0x90, 0xBF⟩, continuation, continuation])
  else if byte < 0xF4 then some (byte.toNat - 0xF0, [continuation, continuation, continuation])
  else if byte = 0xF4 then some (4, [⟨0x80, 0x8F⟩, continuation, continuation])
  else none

/-- Where the bytes stopped: between characters, or inside one. -/
inductive Ending
  | whole
  | cutOff
  deriving DecidableEq, Repr

/-- Whether the bytes `first :: rest` are two that would begin a surrogate, with nothing after
them. These count as a character that was cut off. -/
def isSurrogateStart (first : UInt8) : List UInt8 → Bool
  | [second] => first == 0xED && 0xA0 ≤ second && second ≤ 0xBF
  | _ => false

/-- Decodes bytes that continue a character of which `awaited` is missing and whose code point so
far is `code`. -/
def decodeFrom (code : Nat) (awaited : List Span) : List UInt8 → Option (List Char × Ending)
  | [] => some ([], if awaited.isEmpty then .whole else .cutOff)
  | byte :: rest =>
    match awaited with
    | [] =>
      match lead? byte with
      | none => none
      | some (first, []) => (decodeFrom 0 [] rest).map fun (text, ending) =>
          (Char.ofNat first :: text, ending)
      | some (first, spans) =>
        if isSurrogateStart byte rest then some ([], .cutOff) else decodeFrom first spans rest
    | span :: spans =>
      if span.holds byte then
        let code := code * 64 + (byte.toNat - 0x80)
        match spans with
        | [] => (decodeFrom 0 [] rest).map fun (text, ending) => (Char.ofNat code :: text, ending)
        | _ => decodeFrom code spans rest
      else
        none

/-- The text of the bytes and where it stopped, or nothing if no text begins with them. -/
def decode? (bytes : List UInt8) : Option (List Char × Ending) :=
  decodeFrom 0 [] bytes

end Lc3.Utf8
