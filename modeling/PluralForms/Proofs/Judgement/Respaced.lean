/-
# How a rule is laid out does not matter

A rule that is wrapped, indented or spaced in some other way is judged like the rule on one
line, whether it is a good rule or not.  It has the same verdict for every operand, and an
alarm about it is of the same kind and has the same code.  Only the places in it differ: a
reading that stops before the end has gone over the same visible characters in both.
-/

import PluralForms.Proofs.Judgement.Fault
import PluralForms.Proofs.Spelling.Respaced

namespace PluralForms

open Rule Text

/-- Two replies that differ at most in the blanks that were gone over. -/
inductive Reply.Respaced : Reply → Reply → Prop
  | judged (truth : Bool) {reached reached' : Place} (sameEnd : reached.atEnd = reached'.atEnd)
      (sameVisible : visible reached.behind = visible reached'.behind) :
      Respaced (.judged truth reached) (.judged truth reached')
  | unread : Respaced .unread .unread
  | tooDeep (limit : Int) : Respaced (.tooDeep limit) (.tooDeep limit)

/-- Two assessments that differ at most in what is told about a cause. -/
inductive Assessment.SameCode : Assessment → Assessment → Prop
  | definite (truth : Bool) : SameCode (.definite truth) (.definite truth)
  | indefinite {cause cause' : Cause} (same : cause.code = cause'.code) :
      SameCode (.indefinite cause) (.indefinite cause')

namespace Interpreter

variable {rule rule' : String}

/-- Respaced rules are attempted alike and leave the same fault. -/
theorem parallel_attempt (interpreter : Interpreter)
    (respaced : Respaced rule.toList rule'.toList) :
    (interpreter.attempt rule).Parallel Head.Respaced Eq Eq (interpreter.attempt rule') :=
  Reader.parallel_condition Reader.keptByTokens_respaced (fun _ _ => rfl) interpreter.gate.room
    (Head.start rule.toList) (Head.start rule'.toList) respaced

/-- A place that is reached has the text behind it that was gone over, and the end of the rule
behind that. -/
theorem behind_and_atEnd_of_accepted {interpreter : Interpreter} {chain : Condition} {head : Head}
    (accepted : (interpreter.attempt rule).ending = .accepted chain head) :
    let reached : Place := ⟨rule.toList, head.offset⟩
    reached.behind ++ head.ahead = rule.toList ∧ (reached.atEnd = true ↔ head.ahead = []) := by
  intro reached
  obtain ⟨text, -, -, -, whole, offset⟩ := spelled_of_accepted accepted
  have fits : head.offset ≤ rule.toList.length := by
    rw [whole, offset, List.length_append]
    exact Nat.le_add_right _ _
  have ahead : reached.ahead = head.ahead := ahead_reached accepted
  have inside : reached.Inside := ⟨Int.natCast_nonneg _, Int.ofNat_le.2 fits⟩
  constructor
  · rw [← ahead]
    exact List.take_append_drop _ _
  · rw [← ahead]
    exact Place.atEnd_iff_ahead_eq_nil inside

/-- Two readings that end with respaced texts ahead have gone over the same visible
characters. -/
theorem reply_respaced (interpreter : Interpreter) (respaced : Respaced rule.toList rule'.toList) :
    (interpreter.read rule).1.reply.Respaced (interpreter.read rule').1.reply := by
  have ending := (interpreter.parallel_attempt respaced).ending
  show (interpreter.reply rule (interpreter.attempt rule).ending).Respaced
    (interpreter.reply rule' (interpreter.attempt rule').ending)
  generalize found : (interpreter.attempt rule).ending = first at ending
  generalize found' : (interpreter.attempt rule').ending = second at ending
  unfold reply
  cases ending with
  | @accepted chain _ head head' same ahead =>
      subst same
      cases interpreter.operand.count with
      | none => exact .unread
      | some n =>
          obtain ⟨whole, atEnd⟩ := behind_and_atEnd_of_accepted found
          obtain ⟨whole', atEnd'⟩ := behind_and_atEnd_of_accepted found'
          refine .judged _ ?_ ?_
          · rw [Bool.eq_iff_iff, atEnd, atEnd']
            exact ahead.eq_nil_iff
          · have visibleAhead : visible head.ahead = visible head'.ahead := ahead.visible_eq
            have visibleWhole := respaced.visible_eq
            rw [← whole, ← whole', visible_append, visible_append, visibleAhead] at visibleWhole
            exact List.append_cancel_right visibleWhole
  | refused => cases interpreter.operand.count <;> exact .unread
  | tooDeep => cases interpreter.operand.count <;> exact .tooDeep _

theorem cause?_respaced (interpreter : Interpreter) (respaced : Respaced rule.toList rule'.toList) :
    (interpreter.read rule).2.cause? = (interpreter.read rule').2.cause? := by
  have sameFault := eq_of_rel (interpreter.parallel_attempt respaced).fault
  show ((interpreter.attempt rule).fault.or interpreter.fault).map (·.cause interpreter.operand) =
    ((interpreter.attempt rule').fault.or interpreter.fault).map (·.cause interpreter.operand)
  rw [sameFault]

end Interpreter

/-- What replies come to that differ in blanks differs at most in the places that are
reported. -/
theorem sameCode_of_respaced {rule rule' : String} {known : Option Cause} {reply reply' : Reply}
    {assessment assessment' : Assessment} (respaced : reply.Respaced reply')
    (assessed : assessReading rule known reply = .ok assessment)
    (assessed' : assessReading rule' known reply' = .ok assessment') :
    assessment.SameCode assessment' := by
  rw [assessReading_ok_iff] at assessed assessed'
  cases respaced with
  | judged truth sameEnd =>
      cases assessed with
      | definite atEnd =>
          rw [sameEnd] at atEnd
          cases assessed' with
          | definite => exact .definite truth
          | knownBehind unfinished => exact absurd atEnd unfinished
          | trailing unfinished => exact absurd atEnd unfinished
      | knownBehind unfinished =>
          rw [sameEnd] at unfinished
          cases assessed' with
          | definite atEnd => exact absurd atEnd unfinished
          | knownBehind => exact .indefinite rfl
      | trailing unfinished =>
          rw [sameEnd] at unfinished
          cases assessed' with
          | definite atEnd => exact absurd atEnd unfinished
          | trailing => exact .indefinite rfl
  | unread =>
      cases assessed with
      | knownAtStart =>
          cases assessed' with
          | knownAtStart => exact .indefinite rfl
      | notParsed =>
          cases assessed' with
          | notParsed => exact .indefinite rfl
  | tooDeep limit =>
      cases assessed with
      | tooDeep =>
          cases assessed' with
          | tooDeep => exact .indefinite rfl

section Judged

variable {rule rule' : String}

/-- Respaced rules come to the same, but for the places that are reported. -/
theorem exists_assess_respaced (respaced : Respaced rule.toList rule'.toList) (operand : Operand) :
    ∃ assessment assessment', assess rule operand = .ok assessment ∧
      assess rule' operand = .ok assessment' ∧ assessment.SameCode assessment' := by
  obtain ⟨assessment, assessed⟩ := exists_assess rule operand
  obtain ⟨assessment', assessed'⟩ := exists_assess rule' operand
  refine ⟨assessment, assessment', assessed, assessed', ?_⟩
  let fresh := Interpreter.new .standard operand Gate.standardLimit
  rw [assess_eq] at assessed assessed'
  rw [← fresh.cause?_respaced respaced] at assessed'
  exact sameCode_of_respaced (fresh.reply_respaced respaced) assessed assessed'

/-- Of two rules that differ in their gaps only, the one is judged like the other for every
operand, and where they cannot be judged the alarms are of one kind and their reports have one
code.  Wherever a reading of the one stops, with any limit on nesting, the reading of the other
stops behind the same visible characters. -/
theorem judged_alike_of_respaced (respaced : Respaced rule.toList rule'.toList) :
    (∀ operand : Given Operand, judge (.usable rule) operand = judge (.usable rule') operand) ∧
    (∀ operand : Given Operand, judge (.usable rule) operand = .ok .indeterminate →
      ∃ alarm alarm' report report',
        insist (.usable rule) operand = .error (.alarm alarm) ∧
        insist (.usable rule') operand = .error (.alarm alarm') ∧ alarm.kind = alarm'.kind ∧
        alarm.report = some report ∧ alarm'.report = some report' ∧
        report.code = report'.code) ∧
    ∀ (budget : FrameBudget) (operand : Operand) (requested : Int),
      let reply (rule : String) := ((Interpreter.new budget operand requested).read rule).1.reply
      (reply rule).Respaced (reply rule') := by
  refine ⟨?_, ?_, fun _ _ _ => Interpreter.reply_respaced _ respaced⟩
  · rintro (operand | typeName)
    · obtain ⟨_, _, assessed, assessed', same⟩ := exists_assess_respaced respaced operand
      simp only [judge, usableArguments, verdict_of_assess assessed, verdict_of_assess assessed']
      cases same with
      | definite truth => rfl
      | indefinite => rfl
    · rfl
  · rintro (operand | typeName) indeterminate
    · obtain ⟨_, _, assessed, assessed', same⟩ := exists_assess_respaced respaced operand
      rw [judge_indeterminate_iff] at indeterminate
      cases same with
      | definite truth => exact absurd assessed (indeterminate truth)
      | @indefinite cause cause' same =>
          exact ⟨.ofCause cause, .ofCause cause', cause.report, cause'.report,
            truth_of_indefinite assessed, truth_of_indefinite assessed',
            congrArg AlarmKind.ofCode same, rfl, rfl, same⟩
    · cases indeterminate

/-- Wrapped or not, the rule goes on behind its first relation with something that cannot be
read. -/
theorem judged_alike_of_wrapped :
    let rule := "n is 1 or x"
    let rule' := "n is\n 1\u3000or\t\tx"
    Respaced rule.toList rule'.toList ∧
      judge (.usable rule) (.usable (.integer 1)) = .ok .indeterminate ∧
      judge (.usable rule') (.usable (.integer 1)) = .ok .indeterminate ∧
      ∃ alarm alarm', insist (.usable rule) (.usable (.integer 1)) = .error (.alarm alarm) ∧
        insist (.usable rule') (.usable (.integer 1)) = .error (.alarm alarm') ∧
        alarm.kind = alarm'.kind := by
  intro rule rule'
  have blank {c : Char} (isBlank : Text.isBlank c = true) : IsGap [c] := .singleton isBlank
  have two {b c : Char} (isBlank : Text.isBlank b = true) (isBlank' : Text.isBlank c = true) :
      IsGap [b, c] := ⟨by simp, by simp [isBlank, isBlank']⟩
  have clear {c : Char} {text : List Char} (seen : isBlank c = false) :
      ClearOf isBlank (c :: text) := clearOf_cons.2 seen
  have space : IsGap [' '] := blank (by decide)
  have respaced : Respaced rule.toList rule'.toList := by
    unfold rule rule'
    refine .visible (c := 'n') (by decide) ?_
    refine .gap space space (clear (by decide)) ?_
    refine .visible (c := 'i') (by decide) (.visible (c := 's') (by decide) ?_)
    refine .gap space (two (b := '\n') (c := ' ') (by decide) (by decide)) (clear (by decide)) ?_
    refine .visible (c := '1') (by decide) ?_
    refine .gap space (blank (c := '\u3000') (by decide)) (clear (by decide)) ?_
    refine .visible (c := 'o') (by decide) (.visible (c := 'r') (by decide) ?_)
    refine .gap space (two (b := '\t') (c := '\t') (by decide) (by decide)) (clear (by decide)) ?_
    exact .visible (c := 'x') (by decide) .nil
  obtain ⟨sameVerdict, sameAlarm, -⟩ := judged_alike_of_respaced respaced
  have judged : judge (.usable rule) (.usable (.integer 1)) = .ok .indeterminate := by
    decide +kernel
  obtain ⟨alarm, alarm', -, -, insisted, insisted', kind, -⟩ :=
    sameAlarm (.usable (.integer 1)) judged
  exact ⟨respaced, judged, (sameVerdict _).symm.trans judged, alarm, alarm', insisted, insisted',
    kind⟩

end Judged

end PluralForms
