/-
# Decimal numbers

Numbers of any size to the base ten, with the infinities and the diagnostic
values of decimal arithmetic.  A finite number keeps the exponent with which
it was written, so `1.0` and `1` are different texts of one value.  Reading a
text never rounds, and neither does truncating.
-/

import PluralForms.Number.Numeral
import PluralForms.Number.Scaled

namespace PluralForms.Number

/-- A decimal number.  The payload of a value that is not a number is zero if
it carries none. -/
inductive Decimal
  | finite (negative : Bool) (coefficient : Nat) (exponent : Int)
  | infinite (negative : Bool)
  | notANumber (negative signalling : Bool) (payload : Nat)
  deriving DecidableEq, Repr

namespace Decimal

/-- The integer next to the number on the side of zero, if it is finite. -/
def truncate : Decimal → Option Int
  | finite negative coefficient exponent =>
      some (signed negative (wholePart 10 coefficient exponent))
  | infinite _ => none
  | notANumber _ _ _ => none

/-- The exponent part of a text: nothing, or a mark and a signed numeral. -/
def exponent? : List Char → Option Int
  | [] => some 0
  | 'e' :: rest => integer? rest
  | 'E' :: rest => integer? rest
  | _ => none

/-- Reads digits, a point and further digits, and an exponent. -/
def finite? (negative : Bool) (text : List Char) : Option Decimal :=
  let (whole, afterWhole) := spanDigits text
  let (fraction, afterFraction) := match afterWhole with
    | '.' :: rest => spanDigits rest
    | rest => ([], rest)
  if whole.isEmpty && fraction.isEmpty then none
  else (exponent? afterFraction).map fun exponent =>
    finite negative (numeralValue (whole ++ fraction)) (exponent - fraction.length)

/-- Reads the diagnostic payload behind the letters of a value that is not a
number. -/
def notANumber? (negative signalling : Bool) (text : List Char) : Option Decimal :=
  if text.all Char.isDigit then some (notANumber negative signalling (numeralValue text))
  else none

/-- The number that a text denotes. -/
def ofString? (text : String) : Option Decimal :=
  let (negative, unsigned) := spanMinus text.toList
  match unsigned with
  | 's' :: 'N' :: 'a' :: 'N' :: payload => notANumber? negative true payload
  | 'N' :: 'a' :: 'N' :: payload => notANumber? negative false payload
  | body =>
      if body = "Infinity".toList then some (infinite negative)
      else finite? negative body

/-- The minus sign of a negative number. -/
def sign (negative : Bool) : String :=
  if negative then "-" else ""

/-- The scientific text of a finite magnitude: positional while the exponent
is at most zero and fewer than six zeros would follow the point, else with one
digit before the point and the exponent that this leaves. -/
def magnitudeText (coefficient : Nat) (exponent : Int) : String :=
  let digits := (toString coefficient).toList
  let size : Int := digits.length
  let positional := exponent ≤ 0 && -6 < exponent + size
  let point := if positional then exponent + size else 1
  let mantissa :=
    if point ≤ 0 then '0' :: '.' :: List.replicate (-point).toNat '0' ++ digits
    else if size ≤ point then digits ++ List.replicate (point - size).toNat '0'
    else digits.take point.toNat ++ '.' :: digits.drop point.toNat
  let shift := exponent + size - point
  let tail := if shift = 0 then "" else if shift < 0 then s!"E{shift}" else s!"E+{shift}"
  String.ofList mantissa ++ tail

/-- The text of a number, from which it can be read again. -/
def text : Decimal → String
  | finite negative coefficient exponent =>
      sign negative ++ magnitudeText coefficient exponent
  | infinite negative => sign negative ++ "Infinity"
  | notANumber negative signalling payload =>
      sign negative ++ (if signalling then "sNaN" else "NaN") ++
        (if payload = 0 then "" else toString payload)

end Decimal

end PluralForms.Number
