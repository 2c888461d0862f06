/-
# Words, numerals and blanks

The smallest constructs of a rule.  Each is read greedily and never read again
in a shorter form: blanks run up to the next visible character, a numeral
takes all the digits that it may hold.
-/

import PluralForms.Number.Numeral
import PluralForms.Rule.Attempt
import PluralForms.Text.Blank

namespace PluralForms.Rule

open Number Text

/-- The fixed words of a rule. -/
inductive Word
  | count
  | modulo
  | equals
  | denial
  | member
  | within
  | both
  | either
  | upTo
  deriving DecidableEq, Repr

/-- The spelling of a word. -/
def Word.letters : Word → List Char
  | count => ['n']
  | modulo => ['m', 'o', 'd']
  | equals => ['i', 's']
  | denial => ['n', 'o', 't']
  | member => ['i', 'n']
  | within => ['w', 'i', 't', 'h', 'i', 'n']
  | both => ['a', 'n', 'd']
  | either => ['o', 'r']
  | upTo => ['.', '.']

/-- A numeral has at most this many digits; what follows is not part of it. -/
def mostDigits : Nat := 64

/-- The digits that a numeral at the start of the text consists of. -/
def numeralDigits (text : List Char) : List Char :=
  (text.takeWhile Char.isDigit).take mostDigits

namespace Reader

/-- Reads a fixed word.  What follows the word does not matter. -/
def word (expected : Word) : Reader Unit :=
  fun head =>
    if expected.letters.isPrefixOf head.ahead then
      accept () (head.move expected.letters.length)
    else refuse head

/-- Reads one blank or more. -/
def blanks : Reader Unit :=
  fun head =>
    let run := head.ahead.takeWhile isBlank
    if run.isEmpty then refuse head
    else accept () (head.move run.length)

/-- Reads one digit or more, up to the longest numeral. -/
def numeral : Reader Nat :=
  fun head =>
    let digits := numeralDigits head.ahead
    if digits.isEmpty then refuse head
    else accept (numeralValue digits) (head.move digits.length)

end Reader

end PluralForms.Rule
