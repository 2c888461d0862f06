/-
# The two manners of judging

The lenient and the strict judgement of the same arguments go together.  They
refuse the same arguments in the same words; they find the same truth value;
and the strict one raises an alarm exactly where the lenient one calls the rule
indeterminate.  What an alarm says is what its report says, and its kind is
known from the code of the report.

They part where a full gate stops the reading: the strict one is broken off by
the alarm of the gate, the lenient one goes on with what the alarm says.  So that
the two agree has to be shown for either way in which an alarm is raised.

Nothing else can go wrong.  In particular every span that is made on the way is
one: the places that a reading reaches lie on the rule.
-/

import PluralForms.Proofs.Judgement.Assessment

namespace PluralForms

/-- The alarm has a report and says what it says, and its kind is the one that
belongs to the code of the report. -/
structure Alarm.Reports (alarm : Alarm) (report : Report) : Prop where
  report_eq : alarm.report = some report
  message_eq : alarm.message = report.render
  badText_iff : alarm.kind = .badText ↔
    report.code = .ruleNotParsed ∨ report.code = .ruleTrailingInput
  tooDeep_iff : alarm.kind = .tooDeep ↔ report.code = .maxDepthExceeded
  notEvaluated_iff : alarm.kind = .notEvaluated ↔
    report.code = .operandNotFinite ∨ report.code = .modulusZero ∨ report.code = .rangeTooLarge

/-- Three kinds of alarm share the codes between them. -/
theorem AlarmKind.ofCode_classifies (code : Code) :
    (ofCode code = .badText ↔ code = .ruleNotParsed ∨ code = .ruleTrailingInput) ∧
    (ofCode code = .tooDeep ↔ code = .maxDepthExceeded) ∧
    (ofCode code = .notEvaluated ↔
      code = .operandNotFinite ∨ code = .modulusZero ∨ code = .rangeTooLarge) := by
  cases code <;> decide

theorem Alarm.reports_ofCause (cause : Cause) : (ofCause cause).Reports cause.report := by
  obtain ⟨badText, tooDeep, notEvaluated⟩ := AlarmKind.ofCode_classifies cause.code
  exact ⟨rfl, rfl, badText, tooDeep, notEvaluated⟩

/-- The arguments that have this fault.  If both are of the wrong sort, the rule
is the one that is told of. -/
inductive ArgumentFault.Concerns : ArgumentFault → Given String → Given Operand → Prop
  | rule (typeName : String) (operand : Given Operand) :
      Concerns (.ruleNotText typeName) (.foreign typeName) operand
  | operand (rule typeName : String) :
      Concerns (.operandNotNumber typeName) (.usable rule) (.foreign typeName)

theorem ArgumentFault.Concerns.unique {fault other : ArgumentFault} {rule : Given String}
    {operand : Given Operand} (concerns : fault.Concerns rule operand)
    (concerns' : other.Concerns rule operand) : fault = other := by
  cases concerns with
  | rule typeName operand =>
      cases concerns' with
      | rule => rfl
  | operand rule typeName =>
      cases concerns' with
      | operand => rfl

/-- Arguments of the wrong sort are refused in both manners; otherwise what the
rule amounts to decides both. -/
theorem judge_and_insist_cases (rule : Given String) (operand : Given Operand) :
    (∃ fault, fault.Concerns rule operand ∧ judge rule operand = .error (.argument fault) ∧
      insist rule operand = .error (.argument fault)) ∨
    (∀ fault, ¬ ArgumentFault.Concerns fault rule operand) ∧
      ((∃ truth, judge rule operand = .ok (.ofOption (some truth)) ∧
        insist rule operand = .ok truth) ∨
      ∃ cause, judge rule operand = .ok .indeterminate ∧
        insist rule operand = .error (.alarm (.ofCause cause))) := by
  cases rule with
  | foreign typeName => exact .inl ⟨.ruleNotText typeName, .rule _ _, rfl, rfl⟩
  | usable rule =>
      cases operand with
      | foreign typeName => exact .inl ⟨.operandNotNumber typeName, .operand _ _, rfl, rfl⟩
      | usable operand =>
          obtain ⟨assessment, -, judged, insisted⟩ := exists_judge_and_insist rule operand
          refine .inr ⟨fun fault => nofun, ?_⟩
          cases assessment with
          | definite truth => exact .inl ⟨truth, judged, insisted⟩
          | indefinite cause => exact .inr ⟨cause, judged, insisted⟩

/-- Whatever the arguments are, the two manners of judging go together. -/
theorem insist_agrees_with_judge (rule : Given String) (operand : Given Operand) :
    (∀ fault, judge rule operand = .error (.argument fault) ↔ fault.Concerns rule operand) ∧
    (∀ fault, insist rule operand = .error (.argument fault) ↔ fault.Concerns rule operand) ∧
    (∀ truth, insist rule operand = .ok truth ↔
      judge rule operand = .ok (.ofOption (some truth))) ∧
    ((∃ alarm, insist rule operand = .error (.alarm alarm)) ↔
      judge rule operand = .ok .indeterminate) ∧
    (∀ alarm, insist rule operand = .error (.alarm alarm) → ∃ report, alarm.Reports report) ∧
    (∀ fault, insist rule operand ≠ .error (.span fault)) ∧
    (∀ fault, judge rule operand ≠ .error (.span fault)) ∧
    ∀ alarm, judge rule operand ≠ .error (.alarm alarm) := by
  rcases judge_and_insist_cases rule operand with ⟨fault, concerns, judged, insisted⟩ |
    ⟨usable, ⟨truth, judged, insisted⟩ | ⟨cause, judged, insisted⟩⟩
  · have same (other : ArgumentFault) : fault = other ↔ other.Concerns rule operand :=
      ⟨fun same => same ▸ concerns, fun concerns' => concerns.unique concerns'⟩
    simp [judged, insisted, same]
  · have definite : Verdict.ofOption (some truth) ≠ .indeterminate := by
      simp [Verdict.ofOption_eq_indeterminate_iff]
    simp [judged, insisted, usable, definite, Verdict.ofOption_inj]
  · have undecided (found : Bool) : Verdict.indeterminate ≠ .ofOption (some found) := by
      intro same
      exact nomatch Verdict.ofOption_eq_indeterminate_iff.1 same.symm
    have reported : ∃ report, (Alarm.ofCause cause).Reports report :=
      ⟨cause.report, Alarm.reports_ofCause cause⟩
    simp [judged, insisted, usable, undecided, reported]

end PluralForms
