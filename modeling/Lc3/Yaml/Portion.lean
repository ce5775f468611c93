import Lc3.Text.Newline
import Lc3.Text.Utf8

/-!
How far the text of a document is read. Text is taken in portions and bytes are decoded in blocks,
each when the one before is used up. What is wrong with a portion or with a block shows only then,
so that a scalar in front of it may be refused first.
-/

namespace Lc3.Yaml

def portion : Nat := 4096

/-- How many characters have been taken when `count` of them have been read. The first two portions
are taken together. -/
def taken (count : Nat) : Nat := portion * max 2 ((count + portion - 1) / portion)

/-- The least number of bytes in a block, unless the bytes end in it. -/
def leastBlock : Nat := 8192

/-- The number of bytes in a block from which `wanted` characters are expected, if the block before
had `chars` characters in `bytes` bytes. -/
def blockSize (wanted bytes chars : Nat) : Nat := max leastBlock (wanted * bytes / chars)

theorem blockSize_pos (wanted bytes chars : Nat) : 0 < blockSize wanted bytes chars := by
  simp only [blockSize, leastBlock]
  omega

/-- The characters of the first bytes, if those are the beginning of a text. A final carriage
return is left out, since a newline may follow. -/
def decodeFirst? (bytes : List UInt8) (count : Nat) : Option (List Char) :=
  (Utf8.decode? (bytes.take count)).map fun (text, _) =>
    Text.unifyNewlines (if text.getLast? = some '\r' then text.dropLast else text)

/-- The characters of the blocks before the first one that cannot be decoded. So far `text` comes
from `offset` bytes, of which the latest block had `bytes` and gave `chars` characters. -/
def decodeBlocks (content : List UInt8) (text : List Char) (offset bytes chars : Nat) : List Char :=
  if content.length ≤ offset then text
  else
    let next := offset + blockSize (portion - text.length % portion) bytes chars
    match decodeFirst? content next with
    | none => text
    | some longer =>
      decodeBlocks content longer next (min next content.length - offset)
        (longer.length - text.length)
termination_by content.length - offset
decreasing_by
  have := blockSize_pos (portion - text.length % portion) bytes chars
  omega

/-- The characters that can be had from bytes, in whole blocks. -/
def readable (content : List UInt8) : List Char := decodeBlocks content [] 0 0 0

end Lc3.Yaml
