/-
# Names of fixed things

Verdicts, categories and styles are asked for by name.  A name that none of
them has is reported with the name itself, quoted, and the set it was sought
in.
-/

import PluralForms.Text.Quoted

namespace PluralForms

/-- A name that nothing in a set of fixed things has. -/
structure UnknownName where
  name : String
  sought : String
  deriving DecidableEq, Repr

/-- What is said about an unknown name. -/
def UnknownName.message (unknown : UnknownName) (edition : Text.Edition := .fifteenOne) :
    String :=
  s!"{Text.quoted unknown.name edition} is not a valid {unknown.sought}"

/-- The first of some fixed things that has the name. -/
def findNamed {α : Type} (sought : String) (nameOf : α → String) (all : List α)
    (name : String) : Except UnknownName α :=
  match all.find? (nameOf · == name) with
  | some found => .ok found
  | none => .error ⟨name, sought⟩

end PluralForms
