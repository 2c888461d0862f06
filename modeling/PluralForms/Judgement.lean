/-
# Judging a rule

A rule is judged for an operand in one of two manners.  The lenient one gives
a verdict, and calls everything that goes wrong indeterminate.  The strict one
gives a truth value, or raises an alarm that says what is wrong.  Both accept
a rule only if it was read to its last character, and both refuse arguments of
the wrong sort before they read anything.
-/

import PluralForms.Argument
import PluralForms.Report.Alarm
import PluralForms.Rule.Interpreter
import PluralForms.Verdict

namespace PluralForms

open Text

/-- The manners of judging. -/
inductive Manner
  | lenient
  | strict
  deriving DecidableEq, Repr

/-- Why a judgement is not made. -/
inductive Failure
  | argument (fault : ArgumentFault)
  | span (fault : SpanFault)
  | alarm (alarm : Alarm)
  deriving DecidableEq, Repr

/-- What a rule amounts to for an operand: a truth value, or a cause why there
is none. -/
inductive Assessment
  | definite (truth : Bool)
  | indefinite (cause : Cause)
  deriving DecidableEq, Repr

/-- The truth value of an assessment, if it has one. -/
def Assessment.truth? : Assessment → Option Bool
  | definite truth => some truth
  | indefinite _ => none

/-- The span from a place to the end of its text. -/
def spanFrom (place : Place) : Except SpanFault Span :=
  Span.check place.offset place.text.length place.line place.column

/-- What a reading amounts to.  A rule that was read to its end has the truth
that was found.  Otherwise a fault explains more than the place where reading
stopped. -/
def assessReading (rule : String) (fault : Option Cause) : Reply → Except SpanFault Assessment
  | .judged truth reached =>
      if reached.atEnd then .ok (.definite truth)
      else match fault with
        | some cause => .ok (.indefinite cause)
        | none => (spanFrom reached).map fun span => .indefinite (.trailingInput rule span)
  | .unread =>
      match fault with
      | some cause => .ok (.indefinite cause)
      | none => (spanFrom (Place.ofString rule 0)).map fun span =>
          .indefinite (.notParsed rule span)
  | .tooDeep limit => .ok (.indefinite (.tooDeep limit))

/-- What a rule amounts to for an operand in one of the manners, under the
usual limits.  The alarm of a full gate breaks a strict judgement off; a lenient
one takes what the alarm says for the cause. -/
def assessIn (manner : Manner) (rule : String) (operand : Operand) : Except Failure Assessment :=
  let (reading, after) :=
    (Interpreter.new .standard operand Gate.standardLimit).read rule
  match manner, reading.reply with
  | .strict, .tooDeep limit => .error (.alarm (.ofFullGate limit))
  | _, reply => (assessReading rule after.cause? reply).mapError .span

/-- The lenient judgement of usable arguments. -/
def verdict (rule : String) (operand : Operand) : Except Failure Verdict :=
  match assessIn .lenient rule operand with
  | .ok assessment => .ok (.ofOption assessment.truth?)
  | .error failure => .error failure

/-- The strict judgement of usable arguments. -/
def truth (rule : String) (operand : Operand) : Except Failure Bool :=
  match assessIn .strict rule operand with
  | .ok (.definite truth) => .ok truth
  | .ok (.indefinite cause) => .error (.alarm (.ofReading cause))
  | .error failure => .error failure

/-- The lenient judgement. -/
def judge (rule : Given String) (operand : Given Operand) : Except Failure Verdict :=
  match usableArguments rule operand with
  | .ok (rule, operand) => verdict rule operand
  | .error fault => .error (.argument fault)

/-- The strict judgement. -/
def insist (rule : Given String) (operand : Given Operand) : Except Failure Bool :=
  match usableArguments rule operand with
  | .ok (rule, operand) => truth rule operand
  | .error fault => .error (.argument fault)

end PluralForms
