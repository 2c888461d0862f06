/-
# Recognisers

A recogniser is built from literals and patterns by sequence, ordered choice,
repetition, actions, and deferred reference to a definition by name.  Each
deferred reference in a system of definitions is a node of its own: it looks
up its definition when it is first reached, and keeps it from then on.
-/

import PluralForms.Recognizer.Pattern
import PluralForms.Recognizer.Value

namespace PluralForms

/-- A recogniser whose deferred references carry labels. -/
inductive Recognizer (ν : Type)
  | literal (text : List Char)
  | pattern (form : Recognizer.Pattern)
  | sequence (items : List (Recognizer ν))
  | choice (items : List (Recognizer ν))
  | repetition (item : Recognizer ν) (least : Int) (most : Option Int)
  | acting (item : Recognizer ν) (action : Recognizer.Action)
  | deferred (label : ν)

namespace Recognizer

/-- At most one time.  This recogniser never fails. -/
def optional {ν : Type} (item : Recognizer ν) : Recognizer ν :=
  .repetition item 0 (some 1)

/-- A deferred reference: its number among all references of a system, and the
name of the definition that it refers to. -/
structure Label where
  node : Nat
  name : String
  deriving DecidableEq, Repr

mutual

/-- Numbers the references in a recogniser from left to right, starting with
`next`, and gives the first number that is left. -/
def number : Recognizer String → Nat → Recognizer Label × Nat
  | .literal text, next => (.literal text, next)
  | .pattern form, next => (.pattern form, next)
  | .sequence items, next =>
      let (items, next) := numberAll items next
      (.sequence items, next)
  | .choice items, next =>
      let (items, next) := numberAll items next
      (.choice items, next)
  | .repetition item least most, next =>
      let (item, next) := number item next
      (.repetition item least most, next)
  | .acting item action, next =>
      let (item, next) := number item next
      (.acting item action, next)
  | .deferred name, next => (.deferred ⟨next, name⟩, next + 1)
termination_by structural recognizer => recognizer

/-- Numbers the references in several recognisers, one after another. -/
def numberAll : List (Recognizer String) → Nat → List (Recognizer Label) × Nat
  | [], next => ([], next)
  | item :: rest, next =>
      let (item, next) := number item next
      let (rest, next) := numberAll rest next
      (item :: rest, next)
termination_by structural items => items

end

end Recognizer

end PluralForms
