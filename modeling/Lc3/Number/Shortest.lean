import Lc3.Number.Binary64

/-!
The shortest decimal that reads back as a given double: the fewest digits with which some decimal
rounds to it, and of those with that many digits the nearest.
-/

namespace Lc3.Binary64

structure Decimal where
  digits : Nat
  exponent : Int
  deriving DecidableEq, Repr

/-- The decimals that round to `mantissa * 2 ^ exponent` lie between `low` and `high`, all three
counted in units of `1 / denominator`. The bounds themselves belong to an even mantissa. -/
structure Rounding where
  low : Nat
  value : Nat
  high : Nat
  denominator : Nat
  closed : Bool

/-- Half the way to the neighbours above and below; a power of two is closer to the one below. -/
def rounding (mantissa : Nat) (exponent : Int) : Rounding :=
  let unit := twoTo (exponent - 2).toNat
  let below := if mantissa = twoTo 52 ∧ leastExponent < exponent then 1 else 2
  { low := (4 * mantissa - below) * unit
    value := 4 * mantissa * unit
    high := (4 * mantissa + 2) * unit
    denominator := twoTo (2 - exponent).toNat
    closed := mantissa % 2 == 0 }

namespace Rounding

/-- Whether `digits * 10 ^ exponent` rounds to the value. -/
def accepts (range : Rounding) (digits : Nat) (exponent : Int) : Bool :=
  let point := digits * tenTo exponent.toNat * range.denominator
  let scale := tenTo (-exponent).toNat
  if range.closed then range.low * scale ≤ point && point ≤ range.high * scale
  else range.low * scale < point && point < range.high * scale

/-- The greatest whole number of units of `10 ^ exponent` in the value, and whether the rest is
less than, equal to or more than half a unit. -/
def floorAt (range : Rounding) (exponent : Int) : Nat × Ordering :=
  let top := range.value * tenTo (-exponent).toNat
  let bottom := range.denominator * tenTo exponent.toNat
  (top / bottom, compare (2 * (top % bottom)) bottom)

/-- The power of ten of the leading digit: the least one, from `exponent` upwards, of which the
value holds fewer than ten. -/
def leadingFrom (range : Rounding) : Nat → Int → Int
  | 0, exponent => exponent
  | fuel + 1, exponent =>
    if (range.floorAt exponent).1 < 10 then exponent else range.leadingFrom fuel (exponent + 1)

/-- The decimal on one grid that rounds to the value, if there is one. Of the two grid points
around the value the nearer is preferred, and of two equally near the even one. -/
def onGrid (range : Rounding) (exponent : Int) : Option Decimal :=
  let (below, rest) := range.floorAt exponent
  let above := below + 1
  let preferBelow := rest = .lt ∨ (rest = .eq ∧ below % 2 = 0)
  let (first, second) := if preferBelow then (below, above) else (above, below)
  if range.accepts first exponent then some ⟨first, exponent⟩
  else if range.accepts second exponent then some ⟨second, exponent⟩
  else none

/-- Tries ever finer grids, one more digit at a time. -/
def search (range : Rounding) : Nat → Int → Decimal
  | 0, exponent => ⟨(range.floorAt exponent).1, exponent⟩
  | fuel + 1, exponent =>
    match range.onGrid exponent with
    | some decimal => decimal
    | none => range.search fuel (exponent - 1)

end Rounding

/-- The shortest decimal that rounds to `mantissa * 2 ^ exponent`, which is not zero. -/
def shortest (mantissa : Nat) (exponent : Int) : Decimal :=
  let range := rounding mantissa exponent
  range.search 17 (range.leadingFrom 640 (-325))

/-- How decimals are laid out: positional if the point falls within the given bounds, counted
from before the first digit, and otherwise with an exponent of at least so many digits. -/
structure Layout where
  leastPoint : Int
  greatestPoint : Int
  exponentWidth : Nat

def zeros (count : Int) : List Char := List.replicate count.toNat '0'

def positional (digits : List Char) (point : Int) : List Char :=
  if point ≤ 0 then ['0', '.'] ++ zeros (-point) ++ digits
  else if digits.length ≤ point then digits ++ zeros (point - digits.length) ++ ['.', '0']
  else digits.take point.toNat ++ '.' :: digits.drop point.toNat

def scientific (width : Nat) (digits : List Char) (point : Int) : List Char :=
  let power := point - 1
  let powerDigits := Nat.toDigits 10 power.natAbs
  let fraction := if digits.length ≤ 1 then [] else '.' :: digits.drop 1
  digits.take 1 ++ fraction ++ ['e', if power < 0 then '-' else '+'] ++
    zeros (width - powerDigits.length) ++ powerDigits

/-- Drops the zeros at the end of a number's digits. -/
def significant (digits : List Char) : List Char :=
  (digits.reverse.dropWhile (· == '0')).reverse

def Layout.write (layout : Layout) (decimal : Decimal) : List Char :=
  let all := Nat.toDigits 10 decimal.digits
  let point := all.length + decimal.exponent
  let digits := significant all
  if layout.leastPoint ≤ point ∧ point ≤ layout.greatestPoint then positional digits point
  else scientific layout.exponentWidth digits point

def Layout.text (layout : Layout) : Binary64 → String
  | .nan => "nan"
  | .infinite negative => if negative then "-inf" else "inf"
  | .finite negative mantissa exponent =>
    let magnitude :=
      if mantissa = 0 then ['0', '.', '0'] else layout.write (shortest mantissa exponent)
    String.ofList (if negative then '-' :: magnitude else magnitude)

end Lc3.Binary64
