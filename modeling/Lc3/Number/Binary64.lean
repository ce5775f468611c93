import Lc3.Number.Power

/-!
Double-precision numbers, held exactly: a finite one is a mantissa times a power of two, so every
operation here is arithmetic of natural numbers and no machine arithmetic is involved.
-/

namespace Lc3

inductive Binary64
  | nan
  | infinite (negative : Bool)
  /-- Plus or minus `mantissa * 2 ^ exponent`. -/
  | finite (negative : Bool) (mantissa : Nat) (exponent : Int)
  deriving DecidableEq, Repr

namespace Binary64

def leastExponent : Int := -1074

def greatestExponent : Int := 971

def zero (negative : Bool) : Binary64 := .finite negative 0 leastExponent

/-- The quotient of two numbers, rounded to the nearest whole number; a half goes to the even
neighbour. -/
def divideRounding (numerator denominator : Nat) : Nat :=
  let quotient := numerator / denominator
  let twice := 2 * (numerator % denominator)
  if twice < denominator ∨ (twice = denominator ∧ quotient % 2 = 0) then quotient else quotient + 1

/-- A fraction divided by a power of two, as a fraction. -/
def scale (numerator denominator : Nat) (exponent : Int) : Nat × Nat :=
  (numerator * twoTo (-exponent).toNat, denominator * twoTo exponent.toNat)

def ofRatio (negative : Bool) (numerator denominator : Nat) : Binary64 :=
  if numerator = 0 then zero negative
  else
    let estimate := max leastExponent ((numerator.log2 : Int) - denominator.log2 - 53)
    let (top, bottom) := scale numerator denominator estimate
    let exponent := if twoTo 53 ≤ top / bottom then estimate + 1 else estimate
    let (top, bottom) := scale numerator denominator exponent
    let mantissa := divideRounding top bottom
    let (mantissa, exponent) :=
      if mantissa = twoTo 53 then (twoTo 52, exponent + 1) else (mantissa, exponent)
    if greatestExponent < exponent then .infinite negative else .finite negative mantissa exponent

def ofNat (number : Nat) : Binary64 := ofRatio false number 1

/-- The double nearest to `digits * 10 ^ exponent`. Numbers far out of range are settled without
computing the power. -/
def ofDecimal (negative : Bool) (digits : Nat) (exponent : Int) : Binary64 :=
  let magnitude := exponent + (Nat.toDigits 10 digits).length
  if digits = 0 ∨ magnitude < -400 then zero negative
  else if 400 < magnitude then .infinite negative
  else if 0 ≤ exponent then ofRatio negative (digits * tenTo exponent.toNat) 1
  else ofRatio negative digits (tenTo (-exponent).toNat)

def truncate (negative : Bool) (mantissa : Nat) (exponent : Int) : Int :=
  let magnitude := mantissa * twoTo exponent.toNat / twoTo (-exponent).toNat
  if negative then -magnitude else magnitude

/-- A finite number times `2 ^ 1074`, which is whole. -/
def units (negative : Bool) (mantissa : Nat) (exponent : Int) : Int :=
  let magnitude := mantissa * twoTo (exponent - leastExponent).toNat
  if negative then -magnitude else magnitude

def add : Binary64 → Binary64 → Binary64
  | .nan, _ | _, .nan => .nan
  | .infinite left, .infinite right => if left = right then .infinite left else .nan
  | .infinite negative, _ | _, .infinite negative => .infinite negative
  | .finite leftNegative leftMantissa leftExponent,
      .finite rightNegative rightMantissa rightExponent =>
    let sum := units leftNegative leftMantissa leftExponent +
      units rightNegative rightMantissa rightExponent
    if sum = 0 then zero (leftNegative && rightNegative)
    else ofRatio (sum < 0) sum.natAbs (twoTo 1074)

def isZero : Binary64 → Bool
  | .finite _ 0 _ => true
  | _ => false

def isNegative : Binary64 → Bool
  | .nan => false
  | .infinite negative | .finite negative _ _ => negative

def multiply (left right : Binary64) : Binary64 :=
  let negative := left.isNegative != right.isNegative
  match left, right with
  | .nan, _ | _, .nan => .nan
  | .infinite _, other | other, .infinite _ => if other.isZero then .nan else .infinite negative
  | .finite _ leftMantissa leftExponent, .finite _ rightMantissa rightExponent =>
    let (numerator, denominator) :=
      scale (leftMantissa * rightMantissa) 1 (-(leftExponent + rightExponent))
    ofRatio negative numerator denominator

def negate : Binary64 → Binary64
  | .nan => .nan
  | .infinite negative => .infinite (!negative)
  | .finite negative mantissa exponent => .finite (!negative) mantissa exponent

end Binary64

end Lc3
