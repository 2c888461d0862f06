/-
# Systems of definitions

A system is a recogniser together with the definitions that its deferred
references name.  A run on a system that was built once keeps what its
references have looked up, for itself and for later runs; every look-up is
recorded.
-/

import PluralForms.Recognizer.Run

namespace PluralForms.Recognizer

open Text

/-- A recogniser and the definitions that it refers to. -/
structure System (ν : Type) where
  start : Recognizer ν
  definitions : List (String × Recognizer ν)

namespace System

/-- Numbers the references in definitions, one after another. -/
def numberDefinitions :
    List (String × Recognizer String) → Nat → List (String × Recognizer Label) × Nat
  | [], next => ([], next)
  | (name, definition) :: rest, next =>
      let (definition, next) := definition.number next
      let (rest, next) := numberDefinitions rest next
      ((name, definition) :: rest, next)

/-- The system with a number for every reference. -/
def labelled (system : System String) : System Label :=
  let (start, next) := system.start.number 0
  ⟨start, (numberDefinitions system.definitions next).1⟩

/-- How many references the system has. -/
def references (system : System String) : Nat :=
  (numberDefinitions system.definitions (system.start.number 0).2).2

/-- How deep definitions can unfold in a run from a place that ends.  Two
unfoldings of one reference at one offset, one inside the other, would go on
for ever. -/
def depthBound (system : System String) (place : Place) : Nat :=
  system.references * ((place.text.length - place.offset).natAbs + 2) + 1

/-- The definition that a reference names. -/
def definition (system : System Label) (label : Label) : Except Stop (Recognizer Label) :=
  match system.definitions.lookup label.name with
  | some definition => .ok definition
  | none => .error (.undefined label.name)

/-- Runs the system at a place, looking up every reference anew. -/
def runAfresh (system : System String) (place : Place) : Except Stop (Option Match) :=
  let labelled := system.labelled
  runToDepth perform labelled.definition (system.depthBound place) labelled.start place

end System

/-- What the references of a system have looked up so far: the definition that
each of them keeps, and the names that were looked up, the latest first. -/
structure Memory where
  kept : List (Nat × Recognizer Label)
  lookUps : List String

/-- Nothing was looked up. -/
def Memory.empty : Memory := ⟨[], []⟩

/-- The definition that a reference keeps, or the one that it looks up and
keeps from now on. -/
def consult (system : System Label) (label : Label) :
    StateT Memory (Except Stop) (Recognizer Label) := do
  let memory ← get
  match memory.kept.lookup label.node with
  | some definition => pure definition
  | none => do
      let definition ← system.definition label
      set (Memory.mk ((label.node, definition) :: memory.kept) (label.name :: memory.lookUps))
      pure definition

namespace System

/-- Runs the system at a place, with what its references keep. -/
def run (system : System String) (place : Place) :
    StateT Memory (Except Stop) (Option Match) :=
  let labelled := system.labelled
  runToDepth perform (consult labelled) (system.depthBound place) labelled.start place

/-- Runs the system at one place after another. -/
def runEach (system : System String) :
    List Place → StateT Memory (Except Stop) (List (Option Match))
  | [] => pure []
  | place :: rest => do
      let found ← system.run place
      let others ← system.runEach rest
      pure (found :: others)

end System

/-- How often a name was looked up. -/
def Memory.countLookUps (memory : Memory) (name : String) : Nat :=
  memory.lookUps.count name

end PluralForms.Recognizer
