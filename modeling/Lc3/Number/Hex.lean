/-!
Hexadecimal texts of numbers, padded with zeros to a least width.
-/

namespace Lc3

/-- Hexadecimal digits of a number, at least `width` of them. -/
def hexDigits (number width : Nat) : String :=
  let digits := Nat.toDigits 16 number
  String.ofList (List.replicate (width - digits.length) '0' ++ digits)

/-- A number as `0x` and at least `width` digits, after the sign of a negative one. The sign takes
the place of a digit. -/
def hexText (number : Int) (width : Nat) : String :=
  if number < 0 then "-0x" ++ hexDigits number.natAbs (width - 1)
  else "0x" ++ hexDigits number.toNat width

end Lc3
