/-
# Alarms

An alarm is raised when a rule cannot be judged and the caller insists on an
answer.  Its kind tells a rule whose text is not accepted from one that cannot
be evaluated; nesting too deeply is one way of the latter.
-/

import PluralForms.Report.Cause
import PluralForms.Report.Layout

namespace PluralForms

/-- The kinds of alarms. -/
inductive AlarmKind
  | general
  | badText
  | notEvaluated
  | tooDeep
  deriving DecidableEq, Repr

namespace AlarmKind

/-- All kinds, each after the kinds that include it. -/
def all : List AlarmKind := [general, badText, notEvaluated, tooDeep]

/-- Every alarm of this kind is also one of the other. -/
def isA : AlarmKind → AlarmKind → Bool
  | _, general => true
  | badText, badText => true
  | notEvaluated, notEvaluated => true
  | tooDeep, notEvaluated => true
  | tooDeep, tooDeep => true
  | _, _ => false

/-- The kind of alarm that a report with this code raises. -/
def ofCode (code : Code) : AlarmKind :=
  if code.concernsText then badText
  else if code = .maxDepthExceeded then tooDeep
  else notEvaluated

end AlarmKind

/-- An alarm: its kind, what it says, and the report behind it, if any. -/
structure Alarm where
  kind : AlarmKind
  message : String
  report : Option Report
  deriving DecidableEq, Repr

namespace Alarm

/-- An alarm with nothing but a text. -/
def ofText (kind : AlarmKind) (text : String) : Alarm :=
  ⟨kind, text, none⟩

/-- An alarm that says what a report says. -/
def ofReport (kind : AlarmKind) (report : Report) : Alarm :=
  ⟨kind, report.render, some report⟩

/-- The alarm that belongs to a cause. -/
def ofCause (cause : Cause) : Alarm :=
  ofReport (.ofCode cause.code) cause.report

/-- The alarm that a full gate raises while a rule is read. -/
def ofFullGate (limit : Int) : Alarm :=
  ofReport .tooDeep (Cause.tooDeep limit).report

/-- The alarm that is raised once a reading is over and its cause is known. -/
def ofReading (cause : Cause) : Alarm :=
  ofReport (if cause.code.concernsText then .badText else .notEvaluated) cause.report

/-- A full gate raises the alarm that belongs to nesting too deeply. -/
theorem ofFullGate_eq (limit : Int) : ofFullGate limit = ofCause (.tooDeep limit) := by
  have kind : AlarmKind.ofCode (Cause.tooDeep limit).code = .tooDeep := rfl
  rw [ofFullGate, ofCause, kind]

/-- Any other cause has its own alarm when the reading is over. -/
theorem ofReading_eq {cause : Cause} (other : cause.code ≠ .maxDepthExceeded) :
    ofReading cause = ofCause cause := by
  rw [ofReading, ofCause, AlarmKind.ofCode, if_neg other]

end Alarm

end PluralForms
