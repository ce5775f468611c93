/-!
White space around a numeral. In a text of ASCII alone these are the tabulators, line ends and the
space; other texts may also have the separators of Unicode.
-/

namespace Lc3.Text

def isAsciiBlank (char : Char) : Bool :=
  char == ' ' || ('\t' ≤ char && char ≤ '\r')

/-- Characters beyond ASCII that Unicode counts as white space. -/
def wideBlanks : List Nat :=
  [0x85, 0xA0, 0x1680, 0x2000, 0x2001, 0x2002, 0x2003, 0x2004, 0x2005, 0x2006, 0x2007, 0x2008,
    0x2009, 0x200A, 0x2028, 0x2029, 0x202F, 0x205F, 0x3000]

def isWideBlank (char : Char) : Bool := wideBlanks.contains char.toNat

def trim (text : List Char) : List Char :=
  ((text.dropWhile isAsciiBlank).reverse.dropWhile isAsciiBlank).reverse

end Lc3.Text
