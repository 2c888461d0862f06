/-
# Running a recogniser

A recogniser that succeeds at a place yields a value and the place after what
it took; one that fails yields nothing, and its caller still has its own place.
Runs are stated for any monad in which a run can stop, and leave to their
handlers how an action is performed and how a deferred reference is followed.
So one definition serves runs that keep what references have looked up, runs
that look it up anew each time, and runs that take note of either.

Repetition ends with a success that does not move.  Its length, and the depth
to which definitions unfold, are bounded by budgets that a terminating run
never uses up.
-/

import PluralForms.Recognizer.Basic

namespace PluralForms.Recognizer

open Text

/-- A success: what was recognised, and the place after it. -/
structure Match where
  value : Value
  place : Place

/-- Why a run gives no answer: it would not end, an action met a misfit, or a
reference names no definition. -/
inductive Stop
  | endless
  | misfit (cause : Misfit)
  | undefined (name : String)
  deriving DecidableEq, Repr

/-- The success of a literal, which must stand exactly here. -/
def matchLiteral (text : List Char) (place : Place) : Option Match :=
  if place.startsWith text then some ⟨.text text, place.advance text.length⟩ else none

/-- Where a pattern is tried: an offset outside the text stands for its nearer
end. -/
def patternStart (place : Place) : Nat :=
  min place.offset.toNat place.text.length

/-- The success of a pattern, which must not end where the place is. -/
def matchPattern (form : Pattern) (place : Place) : Option Match :=
  let start := patternStart place
  let ahead := place.text.drop start
  match form.extent ahead with
  | none => none
  | some extent =>
      let stop : Int := start + extent
      if stop = place.offset then none
      else some ⟨.text (ahead.take extent), place.advance (stop - place.offset)⟩

variable {ν : Type} {m : Type → Type} [Monad m] [MonadExceptOf Stop m]

/-- Takes successes of a step one after another: until there are `most`, the
step fails, or a success does not move.  Yields their values and the last
place. -/
def iterate (step : Place → m (Option Match)) :
    Nat → Option Int → Place → m (List Value × Place)
  | budget, most, place =>
      if most.any (· ≤ 0) then pure ([], place)
      else match budget with
        | 0 => throw .endless
        | budget + 1 => do
            match ← step place with
            | none => pure ([], place)
            | some found =>
                if found.place.offset = place.offset then pure ([found.value], found.place)
                else do
                  let (values, last) ← iterate step budget (most.map (· - 1)) found.place
                  pure (found.value :: values, last)

/-- More steps than any repetition from this place can take. -/
def stepBudget (place : Place) : Nat :=
  (place.text.length - place.offset).natAbs + 2

/-- The success of a repetition of a step, if there are at least `least`. -/
def repeated (step : Place → m (Option Match)) (least : Int) (most : Option Int)
    (place : Place) : m (Option Match) := do
  let (values, last) ← iterate step (stepBudget place) most place
  pure (if (values.length : Int) < least then none else some ⟨.list values, last⟩)

/-- Performs an action.  A misfit stops the run. -/
def perform (action : Action) (value : Value) : m (Option Value) :=
  match action.apply value with
  | .ok result => pure result
  | .error misfit => throw (.misfit misfit)

/-- What a run leaves to others: to perform an action, and to run what a
deferred reference stands for. -/
structure Handlers (ν : Type) (m : Type → Type) where
  act : Action → Value → m (Option Value)
  force : ν → Place → m (Option Match)

mutual

/-- Runs a recogniser at a place. -/
def run (handlers : Handlers ν m) :
    Recognizer ν → Place → m (Option Match)
  | .literal text, place => pure (matchLiteral text place)
  | .pattern form, place => pure (matchPattern form place)
  | .sequence items, place => do
      let found ← runAll handlers items place
      pure (found.map fun (values, last) => ⟨.list values, last⟩)
  | .choice items, place => runFirst handlers items place
  | .repetition item least most, place =>
      repeated (fun here => run handlers item here) least most place
  | .acting item action, place => do
      match ← run handlers item place with
      | none => pure none
      | some found => do
          let result ← handlers.act action found.value
          pure (result.map fun value => ⟨value, found.place⟩)
  | .deferred label, place => handlers.force label place
termination_by structural recognizer => recognizer

/-- Runs recognisers one after another; all must succeed. -/
def runAll (handlers : Handlers ν m) :
    List (Recognizer ν) → Place → m (Option (List Value × Place))
  | [], place => pure (some ([], place))
  | item :: rest, place => do
      match ← run handlers item place with
      | none => pure none
      | some found => do
          let others ← runAll handlers rest found.place
          pure (others.map fun (values, last) => (found.value :: values, last))
termination_by structural items => items

/-- Runs recognisers at the same place until one succeeds. -/
def runFirst (handlers : Handlers ν m) :
    List (Recognizer ν) → Place → m (Option Match)
  | [], _ => pure none
  | item :: rest, place => do
      match ← run handlers item place with
      | some found => pure (some found)
      | none => runFirst handlers rest place
termination_by structural items => items

end

/-- Runs a recogniser, following deferred references up to a depth. -/
def runToDepth (act : Action → Value → m (Option Value)) (lookUp : ν → m (Recognizer ν)) :
    Nat → Recognizer ν → Place → m (Option Match)
  | 0 => run ⟨act, fun _ _ => throw .endless⟩
  | depth + 1 => run ⟨act, fun label place => do
      let definition ← lookUp label
      runToDepth act lookUp depth definition place⟩

end PluralForms.Recognizer
