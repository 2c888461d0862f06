/-
# Values of recognisers, and actions on them

A recogniser yields a text, or a list of what its parts yield; actions turn
these into truth values and numbers, or reject what was recognised.  A value
that means nothing, such as zero or an empty list, is a value like any other:
only an action that rejects makes a recogniser fail.

An action that is given a value it has no meaning for is a misfit.
-/

import PluralForms.Number.Integer

namespace PluralForms.Recognizer

open Number

/-- What a recogniser yields. -/
inductive Value
  | text (characters : List Char)
  | truth (value : Bool)
  | number (value : Int)
  | nothing
  | list (items : List Value)
  deriving Repr

/-- What an action does with a value. -/
inductive Action
  | toNumber
  | toTruth
  | toLength
  | join
  | keep
  | replace (value : Value)
  | reject
  | rejectZero
  | rejectEmpty
  deriving Repr

/-- A value that an action has no meaning for. -/
inductive Misfit
  | notInteger (fault : IntegerFault)
  | noLength (typeName : String)
  | notJoinable
  | itemNotText (index : Nat) (typeName : String)
  deriving DecidableEq, Repr

/-- The misfit concerns what a value is, and not merely the type it has. -/
def Misfit.concernsContent : Misfit → Bool
  | notInteger (.malformed _) => true
  | notInteger (.tooLong _) => true
  | _ => false

/-- The wording of a misfit. -/
def Misfit.message (misfit : Misfit) (edition : Text.Edition := .fifteenOne) : String :=
  match misfit with
  | notInteger fault => fault.message edition
  | noLength typeName => "object of type '" ++ typeName ++ "' has no len()"
  | notJoinable => "can only join an iterable"
  | itemNotText index typeName =>
      s!"sequence item {index}: expected str instance, {typeName} found"

namespace Value

/-- The name that messages use for the type of a value. -/
def typeName : Value → String
  | text _ => "str"
  | truth _ => "bool"
  | number _ => "int"
  | nothing => "NoneType"
  | list _ => "list"

/-- Whether the value stands for something: zero, nothing and what is empty do
not. -/
def isTruthy : Value → Bool
  | text characters => !characters.isEmpty
  | truth value => value
  | number value => value ≠ 0
  | nothing => false
  | list items => !items.isEmpty

/-- The integer that a value denotes.  A truth value counts as one or zero. -/
def toNumber : Value → Except IntegerFault Int
  | text characters => readInteger characters
  | truth value => .ok (if value then 1 else 0)
  | number value => .ok value
  | nothing => .error (.foreign nothing.typeName)
  | list items => .error (.foreign (list items).typeName)

/-- The length of a text or a list. -/
def length : Value → Except Misfit Nat
  | text characters => .ok characters.length
  | list items => .ok items.length
  | other => .error (.noLength other.typeName)

/-- The texts of a list one after another; `index` is the place of the first
one in its list. -/
def joinFrom (index : Nat) : List Value → Except Misfit (List Char)
  | [] => .ok []
  | text characters :: rest => (joinFrom (index + 1) rest).map (characters ++ ·)
  | other :: _ => .error (.itemNotText index other.typeName)

/-- The texts that a value consists of, one after another. -/
def joined : Value → Except Misfit (List Char)
  | text characters => .ok characters
  | list items => joinFrom 0 items
  | _ => .error .notJoinable

/-- Whether the value is the number zero. -/
def isZero : Value → Bool
  | number value => value = 0
  | truth value => !value
  | _ => false

end Value

/-- What an action makes of a value; none if it rejects. -/
def Action.apply : Action → Value → Except Misfit (Option Value)
  | toNumber, value =>
      match value.toNumber with
      | .ok number => .ok (some (.number number))
      | .error fault => .error (.notInteger fault)
  | toTruth, value => .ok (some (.truth value.isTruthy))
  | toLength, value => value.length.map fun length => some (.number length)
  | join, value => value.joined.map fun characters => some (.text characters)
  | keep, value => .ok (some value)
  | replace value, _ => .ok (some value)
  | reject, _ => .ok none
  | rejectZero, value => .ok (if value.isZero then none else some value)
  | rejectEmpty, value => value.length.map fun length => if length = 0 then none else some value

end PluralForms.Recognizer
