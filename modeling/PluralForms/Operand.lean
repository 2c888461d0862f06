/-
# Operands

The number that a rule is judged for.  It may be an integer, a double
precision number or a decimal; rules speak about whole counts, so all that
they see of it is the integer that remains when the fraction is dropped.
Infinities and values that are not numbers have no count.
-/

import PluralForms.Number.Binary64

namespace PluralForms

open Number

/-- A number to judge rules for. -/
inductive Operand
  | integer (value : Int)
  | binary (value : Binary64)
  | decimal (value : Decimal)
  deriving DecidableEq, Repr

namespace Operand

/-- The operand without its fraction, if it is finite. -/
def count : Operand → Option Int
  | integer value => some value
  | binary value => value.truncate
  | decimal value => value.truncate

/-- The operand as a message shows it. -/
def shown : Operand → String
  | integer value => toString value
  | binary value => value.text
  | decimal value => "Decimal('" ++ value.text ++ "')"

end Operand

end PluralForms
