/-
# Integers as people write them

An integer may be written with the decimal digits of any script, with a sign,
with single underscores between digits, and with white space around it.  A
text with more digits than the limit is refused before anything after its
digits is looked at.
-/

import PluralForms.Text.Blank
import PluralForms.Text.Digit
import PluralForms.Text.Quoted

namespace PluralForms.Number

open Text

/-- Why something is no integer: the text is not written like one, it has too
many digits, or it is neither a text nor a number. -/
inductive IntegerFault
  | malformed (text : List Char)
  | tooLong (digits : Nat)
  | foreign (typeName : String)
  deriving DecidableEq, Repr

/-- An integer that is read has at most this many digits. -/
def mostIntegerDigits : Nat := 4300

/-- A malformed text is shown up to this many characters, its quotation mark
among them. -/
def mostShown : Nat := 200

/-- The wording of an integer fault. -/
def IntegerFault.message (fault : IntegerFault) (edition : Edition := .fifteenOne) : String :=
  match fault with
  | malformed text =>
      "invalid literal for int() with base 10: " ++
        String.ofList ((quoted (String.ofList text) edition).toList.take mostShown)
  | tooLong digits =>
      s!"Exceeds the limit ({mostIntegerDigits} digits) for integer string conversion: " ++
      s!"value has {digits} digits; " ++
      "use sys.set_int_max_str_digits() to increase the limit"
  | foreign typeName =>
      "int() argument must be a string, a bytes-like object or a real number, not '" ++
        typeName ++ "'"

/-- Whether a character can belong to the digits of an integer. -/
def isDigitOrMark (c : Char) : Bool :=
  (digitValue? c).isSome || c = '_'

/-- The values of the digits in a run of digits and underscores.  Every
underscore must stand between two digits, and the run must end with a digit;
`afterDigit` says whether a digit stands before the run. -/
def runDigits? (afterDigit : Bool) : List Char → Option (List Nat)
  | [] => if afterDigit then some [] else none
  | c :: rest =>
      match digitValue? c with
      | some digit => (runDigits? true rest).map (digit :: ·)
      | none => if afterDigit then runDigits? false rest else none

/-- The number with these digits, the highest first. -/
def ofDigits (digits : List Nat) : Nat :=
  digits.foldl (fun value digit => 10 * value + digit) 0

/-- A sign in front, and what follows it. -/
def spanSign : List Char → Bool × List Char
  | '-' :: rest => (true, rest)
  | '+' :: rest => (false, rest)
  | text => (false, text)

/-- Reads an integer. -/
def readInteger (text : List Char) : Except IntegerFault Int :=
  let (negative, unsigned) := spanSign (text.dropWhile isWhiteSpace)
  match runDigits? false (unsigned.takeWhile isDigitOrMark) with
  | none => .error (.malformed text)
  | some digits =>
      if mostIntegerDigits < digits.length then .error (.tooLong digits.length)
      else if !(unsigned.dropWhile isDigitOrMark).all isWhiteSpace then
        .error (.malformed text)
      else if negative then .ok (-(ofDigits digits : Int))
      else .ok (ofDigits digits)

end PluralForms.Number
