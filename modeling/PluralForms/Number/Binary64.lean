/-
# Double precision binary numbers

A finite number is a sign and `significand * 2 ^ exponent`, so every operation
on it is exact.  Only reading a decimal text rounds: to the nearest number of
the double precision format, and to the even significand of two that are
equally near.
-/

import PluralForms.Number.Decimal

namespace PluralForms.Number

/-- A double precision number. -/
inductive Binary64
  | finite (negative : Bool) (significand : Nat) (exponent : Int)
  | infinite (negative : Bool)
  | notANumber
  deriving DecidableEq, Repr

/-- A quotient rounded to the nearest integer, and to the even one of two that
are equally near. -/
def roundQuotient (dividend divisor : Nat) : Nat :=
  let quotient := dividend / divisor
  let twice := 2 * (dividend % divisor)
  if divisor < twice || (twice == divisor && quotient % 2 == 1) then quotient + 1
  else quotient

/-- The greatest exponent of two whose power is at most the quotient of two
positive numbers. -/
def floorLog (dividend divisor : Nat) : Int :=
  let estimate : Int := (dividend.log2 : Int) - divisor.log2
  let reached :=
    if 0 ≤ estimate then divisor * Nat.pow 2 estimate.toNat ≤ dividend
    else divisor ≤ dividend * Nat.pow 2 (-estimate).toNat
  if reached then estimate else estimate - 1

namespace Binary64

/-- The number of significand bits. -/
def precision : Int := 53

/-- The exponent of the smallest positive number. -/
def leastExponent : Int := -1074

/-- Powers of two from this exponent on are beyond all finite numbers. -/
def overflowExponent : Nat := 1024

/-- The number nearest to the quotient of two positive numbers. -/
def ofQuotient (negative : Bool) (dividend divisor : Nat) : Binary64 :=
  let exponent := max (floorLog dividend divisor - (precision - 1)) leastExponent
  let significand :=
    if 0 ≤ exponent then roundQuotient dividend (divisor * Nat.pow 2 exponent.toNat)
    else roundQuotient (dividend * Nat.pow 2 (-exponent).toNat) divisor
  if Nat.pow 2 overflowExponent ≤ wholePart 2 significand exponent then infinite negative
  else finite negative significand exponent

/-- The number nearest to `coefficient * 10 ^ exponent`.  Numbers far beyond
the format, or far below its smallest one, are settled without forming their
powers of ten. -/
def ofScaled (negative : Bool) (coefficient : Nat) (exponent : Int) : Binary64 :=
  if coefficient = 0 || exponent + coefficient.log2 + 1 < -400 then
    finite negative 0 leastExponent
  else if 400 < exponent then infinite negative
  else if 0 ≤ exponent then ofQuotient negative (coefficient * Nat.pow 10 exponent.toNat) 1
  else ofQuotient negative coefficient (Nat.pow 10 (-exponent).toNat)

/-- The number that a text denotes. -/
def ofString? (text : String) : Option Binary64 :=
  let (negative, unsigned) := spanMinus text.toList
  if unsigned = "nan".toList then some notANumber
  else if unsigned = "inf".toList then some (infinite negative)
  else match Decimal.finite? negative unsigned with
    | some (.finite negative coefficient exponent) =>
        some (ofScaled negative coefficient exponent)
    | _ => none

/-- The integer next to the number on the side of zero, if it is finite. -/
def truncate : Binary64 → Option Int
  | finite negative significand exponent =>
      some (signed negative (wholePart 2 significand exponent))
  | infinite _ => none
  | notANumber => none

/-- The finite number `significand * 2 ^ exponent` as a decimal: a power of two
below one is a power of five over a power of ten. -/
def exactDecimal (negative : Bool) (significand : Nat) (exponent : Int) : Decimal :=
  if 0 ≤ exponent then .finite negative (significand * Nat.pow 2 exponent.toNat) 0
  else .finite negative (significand * Nat.pow 5 (-exponent).toNat) exponent

/-- The text of a number.  A finite one is written out in full. -/
def text : Binary64 → String
  | finite negative significand exponent =>
      (exactDecimal negative significand exponent).text
  | infinite negative => Decimal.sign negative ++ "inf"
  | notANumber => "nan"

end Binary64

end PluralForms.Number
