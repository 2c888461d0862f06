/-
# Plural categories

The six categories among which the languages of the world divide their
counts.  Every language has the last one, which takes whatever no rule claims.
-/

import PluralForms.Naming

namespace PluralForms

/-- A plural category. -/
inductive Category
  | zero
  | one
  | two
  | few
  | many
  | other
  deriving DecidableEq, Repr

namespace Category

/-- All categories. -/
def all : List Category := [zero, one, two, few, many, other]

/-- The text of a category. -/
def text : Category → String
  | zero => "zero"
  | one => "one"
  | two => "two"
  | few => "few"
  | many => "many"
  | other => "other"

/-- The name of a category. -/
def name : Category → String
  | zero => "ZERO"
  | one => "ONE"
  | two => "TWO"
  | few => "FEW"
  | many => "MANY"
  | other => "OTHER"

/-- The category with a text. -/
def ofText (text : String) : Except UnknownName Category :=
  findNamed "PluralCategory" Category.text all text

/-- The category of counts that no rule claims. -/
def fallback : Category := other

end Category

end PluralForms
