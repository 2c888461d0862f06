/-
# Verdicts

The judgement of a rule for an operand has three values.  That a rule could
not be judged is never mistaken for its not holding.
-/

import PluralForms.Naming

namespace PluralForms

/-- Whether a rule holds, or that this cannot be said. -/
inductive Verdict
  | holds
  | fails
  | indeterminate
  deriving DecidableEq, Repr

namespace Verdict

/-- All verdicts. -/
def all : List Verdict := [holds, fails, indeterminate]

/-- The text of a verdict. -/
def text : Verdict → String
  | holds => "true"
  | fails => "false"
  | indeterminate => "indeterminate"

/-- The name of a verdict. -/
def name : Verdict → String
  | holds => "TRUE"
  | fails => "FALSE"
  | indeterminate => "INDETERMINATE"

/-- The verdict with a text. -/
def ofText (text : String) : Except UnknownName Verdict :=
  findNamed "Outcome" Verdict.text all text

/-- The verdict of a truth value, or of there being none. -/
def ofOption : Option Bool → Verdict
  | some true => holds
  | some false => fails
  | none => indeterminate

/-- The truth value of a verdict, if it has one. -/
def toOption : Verdict → Option Bool
  | holds => some true
  | fails => some false
  | indeterminate => none

/-- The verdict settles the matter. -/
def isDefinite (verdict : Verdict) : Bool :=
  verdict != indeterminate

/-- No truth value is lost in a verdict. -/
theorem toOption_ofOption (truth : Option Bool) : (ofOption truth).toOption = truth := by
  rcases truth with _ | _ | _ <;> rfl

/-- A verdict is definite exactly when it has a truth value. -/
theorem isDefinite_eq_isSome (verdict : Verdict) :
    verdict.isDefinite = verdict.toOption.isSome := by
  cases verdict <;> rfl

end Verdict

end PluralForms
