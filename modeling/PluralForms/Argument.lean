/-
# Arguments

A caller may hand over values of any type.  Judging a rule looks at the types
of both arguments first.  An interpreter that is made by itself does not look
at the type of its operand: it fails only if the operand cannot be converted
to an integer at all.
-/

import PluralForms.Number.Integer
import PluralForms.Operand

namespace PluralForms

/-- An argument: a value that can be used, or one of some other type. -/
inductive Given (α : Type)
  | usable (value : α)
  | foreign (typeName : String)
  deriving DecidableEq, Repr

/-- Which argument is of the wrong sort. -/
inductive ArgumentFault
  | ruleNotText (typeName : String)
  | operandNotNumber (typeName : String)
  deriving DecidableEq, Repr

/-- The wording of an argument fault. -/
def ArgumentFault.message : ArgumentFault → String
  | ruleNotText typeName => s!"rule must be str, got {typeName}"
  | operandNotNumber typeName =>
      s!"operand must be int, float, or Decimal, got {typeName}"

/-- The two arguments, if both can be used.  The rule is looked at first. -/
def usableArguments (rule : Given String) (operand : Given Operand) :
    Except ArgumentFault (String × Operand) :=
  match rule, operand with
  | .foreign typeName, _ => .error (.ruleNotText typeName)
  | .usable _, .foreign typeName => .error (.operandNotNumber typeName)
  | .usable rule, .usable operand => .ok (rule, operand)

/-- The operand, if it can be converted to an integer.  A value that can be
used always can, or has no count; a value of a foreign type cannot. -/
def convertible (operand : Given Operand) : Except Number.IntegerFault Operand :=
  match operand with
  | .usable operand => .ok operand
  | .foreign typeName => .error (.foreign typeName)

end PluralForms
