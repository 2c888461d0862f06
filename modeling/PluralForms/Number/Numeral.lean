/-
# Decimal numerals

A numeral is a run of the ten ASCII digits.  Digits of other scripts are not
digits here, and leading zeros do not matter.
-/

namespace PluralForms.Number

/-- The number that a run of digits denotes, its highest digit first. -/
def numeralValue (digits : List Char) : Nat :=
  digits.foldl (fun value digit => 10 * value + (digit.toNat - '0'.toNat)) 0

/-- The digits that a text starts with, and the rest of it. -/
def spanDigits (text : List Char) : List Char × List Char :=
  (text.takeWhile Char.isDigit, text.dropWhile Char.isDigit)

/-- Nothing is lost between the digits and the rest. -/
theorem spanDigits_append (text : List Char) :
    (spanDigits text).1 ++ (spanDigits text).2 = text :=
  List.takeWhile_append_dropWhile

/-- A minus sign in front, and what follows it. -/
def spanMinus : List Char → Bool × List Char
  | '-' :: rest => (true, rest)
  | text => (false, text)

/-- The integer that a text denotes, if it is digits behind at most one sign. -/
def integer? (text : List Char) : Option Int :=
  let (negative, digits) := match text with
    | '-' :: rest => (true, rest)
    | '+' :: rest => (false, rest)
    | rest => (false, rest)
  if digits.isEmpty || !digits.all Char.isDigit then none
  else if negative then some (-(numeralValue digits))
  else some (numeralValue digits)

end PluralForms.Number
