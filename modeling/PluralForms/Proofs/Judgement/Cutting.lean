/-
# Cutting a rule where its reading stopped

What was read of a rule stands on its own.  The text up to the place that a reading
reached is itself a rule, it is read to its end, and the truth that is found is the
same; nothing of what stood behind the place mattered.

So the report about trailing text can be trusted.  Its span starts behind a whole
relation, at the place that the reading reached, and ends with the rule, and the rule
without that span is definite.
-/

import PluralForms.Proofs.Judgement.Verdict

namespace PluralForms

open Rule Text

namespace Rule

/-- The rule without what stands behind so many characters. -/
def cutAt (rule : String) (stop : Nat) : String :=
  String.ofList (rule.toList.take stop)

section Shortest

variable {text : List Char}

theorem IsGap.length_pos (isGap : IsGap text) : 0 < text.length :=
  List.length_pos_iff.2 isGap.nonempty

theorem IsNumeral.length_pos {value : Nat} (numeral : IsNumeral value text) : 0 < text.length :=
  List.length_pos_iff.2 numeral.nonempty

theorem Expression.SpelledBy.length_pos {subject : Expression} (spelled : subject.SpelledBy text) :
    0 < text.length := by
  obtain ⟨tail, rfl⟩ := spelled.exists_cons
  exact Nat.succ_pos _

/-- The shortest relation compares the count with a single digit. -/
theorem Relation.SpelledBy.six_le_length {only : Relation} (spelled : only.SpelledBy text) :
    6 ≤ text.length := by
  cases spelled with
  | equality subjectSpelled gapBefore _ gapAfter numeral =>
      have subject := subjectSpelled.length_pos
      have before := gapBefore.length_pos
      have after := gapAfter.length_pos
      have digits := numeral.length_pos
      simp only [List.length_append, List.length_cons, List.length_nil]
      omega
  | membership subjectSpelled _ gapBefore gapAfter intervalSpelled =>
      cases intervalSpelled with
      | bounds firstNumeral lastNumeral =>
          have subject := subjectSpelled.length_pos
          have before := gapBefore.length_pos
          have digits := firstNumeral.length_pos
          simp only [List.length_append, List.length_cons, List.length_nil]
          omega
  | within subjectSpelled _ _ intervalSpelled =>
      simp only [List.length_append, List.length_cons, List.length_nil]
      omega

theorem Condition.SpelledBy.six_le_length {chain : Condition} (spelled : chain.SpelledBy text) :
    6 ≤ text.length := by
  cases spelled with
  | relation spelled => exact spelled.six_le_length
  | joined firstSpelled =>
      have first := firstSpelled.six_le_length
      simp only [List.length_append]
      omega

end Shortest

end Rule

/-- The integers that a span was made of are kept in it. -/
theorem Span.of_check {start stop line column : Int} {span : Span}
    (checked : Span.check start stop line column = .ok span) :
    (span.start : Int) = start ∧ (span.stop : Int) = stop ∧ (span.line : Int) = line ∧
      (span.column : Int) = column := by
  unfold Span.check at checked
  split at checked
  · cases checked
  split at checked
  · cases checked
  split at checked
  · cases checked
  split at checked
  · cases checked
  cases checked
  refine ⟨?_, ?_, ?_, ?_⟩ <;> simp only <;> omega

namespace Interpreter

variable {interpreter : Interpreter} {rule : String} {truth : Bool} {reached : Place}

/-- What a reading went over is the spelling of a condition with the truth that was
found. -/
theorem spelled_up_to_reached
    (judged : (interpreter.read rule).1.reply = .judged truth reached) :
    ∃ (n : Int) (chain : Condition) (stop : Nat), interpreter.operand.count = some n ∧
      chain.SpelledBy (cutAt rule stop).toList ∧ chain.Permitted ∧
      chain.relations.length ≤ interpreter.gate.room ∧ chain.holds n = truth ∧
      reached = ⟨rule.toList, stop⟩ ∧ (cutAt rule stop).toList.length = stop := by
  obtain ⟨n, chain, head, isCount, accepted, holds, rfl⟩ := reply_judged_iff.1 judged
  obtain ⟨text, spelled, permitted, short, whole, offset⟩ := spelled_of_accepted accepted
  have kept : (cutAt rule head.offset).toList = text := by
    rw [cutAt, String.toList_ofList, whole, offset, List.take_left]
  rw [← kept] at spelled offset
  exact ⟨n, chain, head.offset, isCount, spelled, permitted, short, holds, rfl, offset.symm⟩

/-- A rule that was read to its end leaves an interpreter as much at fault as it was. -/
theorem fault_read_of_spelled {n : Int} {chain : Condition}
    (isCount : interpreter.operand.count = some n) (spelled : chain.SpelledBy rule.toList)
    (permitted : chain.Permitted) (short : chain.relations.length ≤ interpreter.gate.room) :
    (interpreter.read rule).2.fault = interpreter.fault := by
  have taken := Reader.takes_condition_nil spelled permitted short
  have faultless : (interpreter.attempt rule).fault = none := by
    rw [attempt, isCount, Option.isSome_some]
    exact taken.fault 0
  show (interpreter.attempt rule).fault.or interpreter.fault = _
  rw [faultless, Option.none_or]

end Interpreter

/-- Trailing text is reported where the reading stopped short of the end. -/
theorem exists_reached_of_trailing {rule : String} {known : Option Cause} {reply : Reply}
    {cause : Cause} (elsewise : ∀ other, known = some other → other.code ≠ .ruleTrailingInput)
    (assessed : assessReading rule known reply = .ok (.indefinite cause))
    (trailing : cause.code = .ruleTrailingInput) :
    ∃ truth reached span, reply = .judged truth reached ∧ ¬ reached.atEnd = true ∧
      spanFrom reached = .ok span ∧ cause = .trailingInput rule span := by
  cases assessReading_ok_iff.1 assessed with
  | knownBehind => exact absurd trailing (elsewise cause rfl)
  | trailing unfinished isSpan => exact ⟨_, _, _, rfl, unfinished, isSpan, rfl⟩
  | knownAtStart => exact absurd trailing (elsewise cause rfl)
  | notParsed => cases trailing
  | tooDeep => cases trailing

/-- An alarm is the one of the cause that the rule is indefinite for. -/
theorem exists_cause_of_alarm {rule : String} {operand : Operand} {alarm : Alarm}
    (raised : insist (.usable rule) (.usable operand) = .error (.alarm alarm)) :
    ∃ cause, assess rule operand = .ok (.indefinite cause) ∧ alarm = .ofCause cause := by
  obtain ⟨assessment, assessed, -, insisted⟩ := exists_judge_and_insist rule operand
  rw [insisted] at raised
  cases assessment with
  | definite truth => cases raised
  | indefinite cause =>
      cases raised
      exact ⟨cause, assessed, rfl⟩

/-- A definite rule is judged by its truth in both manners. -/
theorem judge_and_insist_of_definite {rule : String} {operand : Operand} {truth : Bool}
    (assessed : assess rule operand = .ok (.definite truth)) :
    judge (.usable rule) (.usable operand) = .ok (.ofOption (some truth)) ∧
      insist (.usable rule) (.usable operand) = .ok truth := by
  obtain ⟨assessment, assessed', judged, insisted⟩ := exists_judge_and_insist rule operand
  obtain rfl : assessment = .definite truth := Except.ok.inj (assessed'.symm.trans assessed)
  exact ⟨judged, insisted⟩

section Cut

variable {operand : Operand} {rule : String} {truth : Bool} {reached : Place}

/-- Up to the place that a reading reached, a rule is definite. -/
theorem assess_cutAt {budget : FrameBudget} {requested : Int} {stop : Nat}
    (usual : requested ≤ Gate.standardLimit)
    (judged : ((Interpreter.new budget operand requested).read rule).1.reply =
      .judged truth ⟨rule.toList, stop⟩) :
    assess (cutAt rule stop) operand = .ok (.definite truth) := by
  obtain ⟨n, chain, stop', finite, spelled, permitted, short, holds, same, -⟩ :=
    Interpreter.spelled_up_to_reached judged
  obtain rfl : stop = stop' := Int.ofNat_inj.1 (congrArg Place.offset same)
  have granted : budget.grant requested ≤ requested := by
    unfold FrameBudget.grant
    split <;> omega
  have hundred : Gate.standardLimit = 100 := rfl
  rw [Interpreter.room_new] at short
  exact (assess_definite_iff finite).2 ⟨chain, ⟨spelled, permitted, by omega⟩, holds⟩

/-- If trailing text is what is said of a rule, a relation was read, and not all of the
rule. -/
theorem exists_stop_of_trailing {cause : Cause}
    (assessed : assess rule operand = .ok (.indefinite cause))
    (trailing : cause.code = .ruleTrailingInput) :
    ∃ (truth : Bool) (stop : Nat) (span : Span),
      ((Interpreter.new .standard operand Gate.standardLimit).read rule).1.reply =
        .judged truth ⟨rule.toList, stop⟩ ∧
      6 ≤ stop ∧ stop < rule.toList.length ∧ spanFrom ⟨rule.toList, stop⟩ = .ok span ∧
      cause = .trailingInput rule span := by
  rw [assess_eq] at assessed
  obtain ⟨truth, reached, span, judged, unfinished, isSpan, rfl⟩ :=
    exists_reached_of_trailing
      (fun _ known => Interpreter.code_ne_of_cause? known (by decide)) assessed trailing
  obtain ⟨n, chain, stop, -, spelled, -, -, -, rfl, length⟩ :=
    Interpreter.spelled_up_to_reached judged
  have notAll : stop < rule.toList.length := by
    simpa [Place.atEnd] using unfinished
  exact ⟨truth, stop, span, judged, length ▸ spelled.six_le_length, notAll, isSpan, rfl⟩

/-- What was read of a rule reads the same without the rest of it.  If the rest is what
is reported, the report says where it starts, and the rule is definite without it. -/
theorem reading_stands_alone (operand : Operand) (rule : String) :
    (∀ (budget : FrameBudget) (requested : Int) (truth : Bool) (reached : Place),
      let fresh := Interpreter.new budget operand requested
      (fresh.read rule).1.reply = .judged truth reached →
      ∃ stop : Nat, reached = ⟨rule.toList, stop⟩ ∧
        let kept := cutAt rule stop
        kept.toList.length = stop ∧
        (fresh.read kept).1.reply = .judged truth ⟨kept.toList, stop⟩ ∧
        (fresh.read kept).2.cause? = none ∧
        (requested ≤ Gate.standardLimit →
          judge (.usable kept) (.usable operand) = .ok (.ofOption (some truth)))) ∧
    ∀ (alarm : Alarm) (report : Report),
      insist (.usable rule) (.usable operand) = .error (.alarm alarm) →
      alarm.report = some report → report.code = .ruleTrailingInput →
      ∃ (span : Span) (truth : Bool), report.span = some span ∧
        6 ≤ span.start ∧ span.start < span.stop ∧ span.stop = rule.toList.length ∧
        let start := Place.ofString rule span.start
        let kept := cutAt rule span.start
        span.line = start.line ∧ span.column = start.column ∧
        ((Interpreter.new .standard operand Gate.standardLimit).read rule).1.reply =
          .judged truth start ∧
        judge (.usable kept) (.usable operand) = .ok (.ofOption (some truth)) ∧
        insist (.usable kept) (.usable operand) = .ok truth := by
  constructor
  · intro budget requested truth reached fresh judged
    obtain ⟨n, chain, stop, finite, spelled, permitted, short, holds, rfl, length⟩ :=
      Interpreter.spelled_up_to_reached judged
    refine ⟨stop, rfl, length, ?_, ?_, ?_⟩
    · rw [Interpreter.judged_of_spelled finite spelled permitted short, holds, length]
    · rw [Interpreter.cause?, Interpreter.fault_read_of_spelled finite spelled permitted short]
      rfl
    · intro usual
      exact (judge_and_insist_of_definite (assess_cutAt usual judged)).1
  · intro alarm report raised reported trailing
    obtain ⟨cause, assessed, rfl⟩ := exists_cause_of_alarm raised
    obtain rfl := Option.some.inj reported
    obtain ⟨truth, stop, span, judged, far, notAll, isSpan, rfl⟩ :=
      exists_stop_of_trailing assessed trailing
    obtain ⟨start, stop_eq, line, column⟩ := Span.of_check isSpan
    have isStart : span.start = stop := Int.ofNat_inj.1 start
    have isStop : span.stop = rule.toList.length := Int.ofNat_inj.1 stop_eq
    obtain ⟨lenient, strict⟩ := judge_and_insist_of_definite (assess_cutAt (Int.le_refl _) judged)
    rw [← isStart] at far notAll line column judged lenient strict
    exact ⟨span, truth, rfl, far, isStop ▸ notAll, isStop, Int.ofNat_inj.1 line, column, judged,
      lenient, strict⟩

/-- Without its dangling connective a wrapped rule holds again. -/
theorem judge_without_dangling_connective :
    let rule := "n is 1\nor n is 2 and"
    let kept := "n is 1\nor n is 2"
    let fresh := Interpreter.new .standard (.integer 2) Gate.standardLimit
    (fresh.read rule).1.reply = .judged true ⟨rule.toList, 16⟩ ∧
      (fresh.read kept).1.reply = .judged true ⟨kept.toList, 16⟩ ∧
      ∃ alarm report span, insist (.usable rule) (.usable (.integer 2)) = .error (.alarm alarm) ∧
        alarm.report = some report ∧ report.code = .ruleTrailingInput ∧
        report.span = some span ∧ span.column = (Place.ofString rule span.start).column ∧
        insist (.usable (cutAt rule span.start)) (.usable (.integer 2)) = .ok true := by
  intro rule kept fresh
  have judged : (fresh.read rule).1.reply = .judged true ⟨rule.toList, 16⟩ := by decide +kernel
  have raised : insist (.usable rule) (.usable (.integer 2)) = .error (.alarm (.ofCause
      (.trailingInput rule ⟨16, 20, 2, 10, by decide, by decide, by decide⟩))) := by
    decide +kernel
  obtain ⟨alone, repaired⟩ := reading_stands_alone (.integer 2) rule
  obtain ⟨stop, reached, -, again, -⟩ := alone .standard _ true _ judged
  obtain rfl : 16 = stop := Int.ofNat_inj.1 (congrArg Place.offset reached)
  obtain ⟨span, truth, isSpan, -, -, -, -, column, judged', -, insisted⟩ :=
    repaired _ _ raised rfl rfl
  obtain ⟨rfl, -⟩ := Reply.judged.inj (judged.symm.trans judged')
  have isKept : cutAt rule 16 = kept := by decide +kernel
  rw [isKept] at again
  exact ⟨judged, again, _, _, span, raised, rfl, rfl, isSpan, column, insisted⟩

end Cut

end PluralForms
