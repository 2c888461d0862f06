/-
# Interpreters of rules

An interpreter judges rules for one operand, one rule after another.  Between
two rules it keeps its gate, which counts the open levels of nesting, and the
latest fault that any rule so far has shown; a rule without a fault leaves the
earlier one in place.

Both connectives refer back to the whole condition by one deferred reference,
which keeps the definition that it looks up for the rules to come.  That is no
part of the state here: the definition is the same whenever it is looked up, so
keeping it shows in no answer, no fault and no line of a trace.
-/

import PluralForms.Nesting
import PluralForms.Operand
import PluralForms.Report.Cause
import PluralForms.Rule.Reading
import PluralForms.Rule.Trace
import PluralForms.Text.Place

namespace PluralForms

open Rule Text

/-- What a fault amounts to for an operand. -/
def Rule.Fault.cause (operand : Operand) : Fault → Cause
  | noCount => .operandNotFinite operand.shown
  | zeroDivisor => .modulusZero
  | oversized interval => .rangeTooLarge interval.first interval.last Interval.mostMembers

/-- The gate after an event. -/
def Gate.after (gate : Gate) : Event → Gate
  | .opened _ => gate.enter?.getD gate
  | .closed => gate.leave
  | _ => gate

/-- How an interpreter answers: with the truth of what it could read and the
place that it reached, with nothing, or by stopping at a full gate. -/
inductive Reply
  | judged (truth : Bool) (reached : Place)
  | unread
  | tooDeep (limit : Int)
  deriving DecidableEq, Repr

/-- The answer to one rule, with the log of its reading. -/
structure Reading where
  reply : Reply
  log : List Event
  deriving DecidableEq, Repr

/-- A judge of rules for one operand. -/
structure Interpreter where
  operand : Operand
  gate : Gate
  fault : Option Fault
  deriving DecidableEq, Repr

namespace Interpreter

/-- An interpreter that has seen no rule yet. -/
def new (budget : FrameBudget) (operand : Operand) (requestedDepth : Int) : Interpreter :=
  ⟨operand, Gate.ofRequest budget requestedDepth, none⟩

/-- Reads a rule from its first character. -/
def attempt (interpreter : Interpreter) (rule : String) : Attempt Condition :=
  Reader.condition interpreter.operand.count.isSome interpreter.gate.room
    (Head.start rule.toList)

/-- The answer that an ending gives.  Without a count no rule is accepted. -/
def reply (interpreter : Interpreter) (rule : String) (ending : Ending Condition) : Reply :=
  match interpreter.operand.count, ending with
  | some n, .accepted condition head =>
      .judged (condition.holds n) ⟨rule.toList, head.offset⟩
  | _, .tooDeep => .tooDeep interpreter.gate.limit
  | _, _ => .unread

/-- Judges a rule. -/
def read (interpreter : Interpreter) (rule : String) : Reading × Interpreter :=
  let attempt := interpreter.attempt rule
  (⟨interpreter.reply rule attempt.ending, attempt.log⟩,
   { interpreter with
     gate := attempt.log.foldl Gate.after interpreter.gate
     fault := attempt.fault.or interpreter.fault })

/-- What is wrong according to the latest fault. -/
def cause? (interpreter : Interpreter) : Option Cause :=
  interpreter.fault.map (·.cause interpreter.operand)

/-- The trace of a reading.  Without a count nothing passes, so no value is
shown. -/
def trace (interpreter : Interpreter) (reading : Reading) : List String :=
  Rule.trace (interpreter.operand.count.getD 0) reading.log

end Interpreter

end PluralForms
