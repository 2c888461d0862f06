/-
# What a rule amounts to

A reading that is accepted stops at a place on the rule, so the span from there
to the end can always be made and an assessment always exists.  Both manners of
judging are functions of it.  For an operand with a count it is definite exactly
when the rule, to its last character, spells a permitted condition that is not
nested too deeply.
-/

import PluralForms.Judgement
import PluralForms.Proofs.Spelling.Chain

namespace PluralForms

open Rule Text

namespace Interpreter

variable {interpreter : Interpreter} {rule : String}

/-- A rule is judged exactly when there is a count and a condition is read. -/
theorem reply_judged_iff {truth : Bool} {reached : Place} :
    (interpreter.read rule).1.reply = .judged truth reached ↔
      ∃ n chain head, interpreter.operand.count = some n ∧
        (interpreter.attempt rule).ending = .accepted chain head ∧ chain.holds n = truth ∧
        ⟨rule.toList, head.offset⟩ = reached := by
  show interpreter.reply rule (interpreter.attempt rule).ending = _ ↔ _
  unfold reply
  cases interpreter.operand.count <;> cases (interpreter.attempt rule).ending <;>
    simp [and_assoc]

/-- A rule is stopped exactly when its reading is. -/
theorem reply_tooDeep_iff {limit : Int} :
    (interpreter.read rule).1.reply = .tooDeep limit ↔
      (interpreter.attempt rule).ending = .tooDeep ∧ interpreter.gate.limit = limit := by
  show interpreter.reply rule (interpreter.attempt rule).ending = _ ↔ _
  unfold reply
  cases interpreter.operand.count <;> cases (interpreter.attempt rule).ending <;> simp

/-- The reading of a rule that is answered otherwise does not stop. -/
theorem ending_ne_tooDeep
    (unstopped : ∀ limit, (interpreter.read rule).1.reply ≠ .tooDeep limit) :
    (interpreter.attempt rule).ending ≠ .tooDeep :=
  fun ending => unstopped _ (reply_tooDeep_iff.2 ⟨ending, rfl⟩)

section New

variable {budget : FrameBudget} {operand : Operand} {requested n : Int}

/-- A new interpreter has as many levels as it was granted. -/
theorem room_new : (new budget operand requested).gate.room = (budget.grant requested).toNat := by
  simp [new, Gate.ofRequest, Gate.room]

theorem attempt_new_of_finite (finite : operand.count = some n) :
    (new budget operand requested).attempt rule =
      Reader.condition true (budget.grant requested).toNat (Head.start rule.toList) := by
  rw [attempt, room_new, show (new budget operand requested).operand.count = some n from finite,
    Option.isSome_some]

/-- The first fault that an interpreter keeps is the one that its first rule
leaves. -/
theorem fault_read_new :
    ((new budget operand requested).read rule).2.fault =
      ((new budget operand requested).attempt rule).fault :=
  Option.or_none

end New

/-- A condition that is read covers the rule up to where the head stands. -/
theorem spelled_of_accepted {chain : Condition} {head : Head}
    (accepted : (interpreter.attempt rule).ending = .accepted chain head) :
    ∃ text, chain.SpelledBy text ∧ chain.Permitted ∧
      chain.relations.length ≤ interpreter.gate.room ∧ rule.toList = text ++ head.ahead ∧
      head.offset = text.length := by
  obtain ⟨text, spelled, permitted, short, passes⟩ := Reader.spelled_of_condition accepted
  exact ⟨text, spelled, permitted, short, passes.ahead_eq,
    by simpa [Head.start] using passes.offset_eq⟩

/-- A rule that is read to its end is all spelling of a condition. -/
theorem spelled_of_atEnd {truth : Bool} {reached : Place}
    (judged : (interpreter.read rule).1.reply = .judged truth reached)
    (atEnd : reached.atEnd = true) :
    ∃ (n : Int) (chain : Condition), interpreter.operand.count = some n ∧
      chain.SpelledBy rule.toList ∧ chain.Permitted ∧
      chain.relations.length ≤ interpreter.gate.room ∧ chain.holds n = truth := by
  obtain ⟨n, chain, head, isCount, accepted, holds, rfl⟩ := reply_judged_iff.1 judged
  obtain ⟨text, spelled, permitted, short, whole, offset⟩ := spelled_of_accepted accepted
  have nothingAhead : head.ahead = [] := by
    rw [Place.atEnd, decide_eq_true_eq] at atEnd
    simp only [whole, offset, List.length_append] at atEnd
    exact List.eq_nil_of_length_eq_zero (by omega)
  have isWhole : rule.toList = text := by rw [whole, nothingAhead, List.append_nil]
  exact ⟨n, chain, isCount, isWhole ▸ spelled, permitted, short, holds⟩

/-- A rule that is all spelling of a condition is read to its end, given the
room. -/
theorem judged_of_spelled {n : Int} {chain : Condition}
    (isCount : interpreter.operand.count = some n) (spelled : chain.SpelledBy rule.toList)
    (permitted : chain.Permitted) (short : chain.relations.length ≤ interpreter.gate.room) :
    (interpreter.read rule).1.reply =
      .judged (chain.holds n) ⟨rule.toList, rule.toList.length⟩ := by
  have taken := Reader.takes_condition_nil spelled permitted short
  have accepted : (interpreter.attempt rule).ending =
      .accepted chain ⟨rule.toList.length, []⟩ := by
    have countable : interpreter.operand.count.isSome = true := by
      rw [isCount, Option.isSome_some]
    have ending := taken.ending 0
    rw [Nat.zero_add, List.length_nil, Nat.sub_zero, ← countable] at ending
    exact ending
  exact reply_judged_iff.2 ⟨n, chain, _, isCount, accepted, rfl, rfl⟩

/-- The place that a reading reaches lies on the rule. -/
theorem inside_of_judged {truth : Bool} {reached : Place}
    (judged : (interpreter.read rule).1.reply = .judged truth reached) :
    reached.text = rule.toList ∧ reached.Inside := by
  obtain ⟨n, chain, head, -, accepted, -, rfl⟩ := reply_judged_iff.1 judged
  obtain ⟨text, -, -, -, whole, offset⟩ := spelled_of_accepted accepted
  refine ⟨rfl, Int.natCast_nonneg _, ?_⟩
  simp only [offset, whole, List.length_append]
  omega

end Interpreter

/-- From a place on a text there is a span to its end. -/
theorem exists_spanFrom {place : Place} (inside : place.Inside) :
    ∃ span, spanFrom place = .ok span := by
  have same := Place.boundary_eq_offset inside
  obtain ⟨lower, upper⟩ := inside
  have line_pos : ¬ (place.line : Int) < 1 := by
    simp only [Place.line]
    omega
  have column_pos : ¬ place.column < 1 := by
    simp only [Place.column]
    omega
  unfold spanFrom Span.check
  rw [dif_neg (Int.not_lt.2 lower), dif_neg (Int.not_lt.2 upper), dif_neg line_pos,
    dif_neg column_pos]
  exact ⟨_, rfl⟩

/-- The start of a rule lies on it. -/
theorem inside_ofString_zero (rule : String) : (Place.ofString rule 0).Inside :=
  ⟨Int.le_refl 0, Int.natCast_nonneg _⟩

/-- What each reply comes to, given the cause that is known, if any. -/
inductive Reply.ComesTo (rule : String) : Option Cause → Reply → Assessment → Prop
  | definite {known : Option Cause} {truth : Bool} {reached : Place}
      (atEnd : reached.atEnd = true) :
      ComesTo rule known (.judged truth reached) (.definite truth)
  | knownBehind {cause : Cause} {truth : Bool} {reached : Place}
      (unfinished : ¬ reached.atEnd = true) :
      ComesTo rule (some cause) (.judged truth reached) (.indefinite cause)
  | trailing {truth : Bool} {reached : Place} {span : Span}
      (unfinished : ¬ reached.atEnd = true) (isSpan : spanFrom reached = .ok span) :
      ComesTo rule none (.judged truth reached) (.indefinite (.trailingInput rule span))
  | knownAtStart {cause : Cause} : ComesTo rule (some cause) .unread (.indefinite cause)
  | notParsed {span : Span} (isSpan : spanFrom (Place.ofString rule 0) = .ok span) :
      ComesTo rule none .unread (.indefinite (.notParsed rule span))
  | tooDeep {known : Option Cause} {limit : Int} :
      ComesTo rule known (.tooDeep limit) (.indefinite (.tooDeep limit))

theorem assessReading_ok_iff {rule : String} {known : Option Cause} {reply : Reply}
    {assessment : Assessment} :
    assessReading rule known reply = .ok assessment ↔ reply.ComesTo rule known assessment := by
  constructor
  · intro assessed
    cases reply with
    | judged truth reached =>
        by_cases atEnd : reached.atEnd = true
        · simp only [assessReading, if_pos atEnd] at assessed
          cases assessed
          exact .definite atEnd
        · simp only [assessReading, if_neg atEnd] at assessed
          cases known with
          | some cause =>
              cases assessed
              exact .knownBehind atEnd
          | none =>
              cases isSpan : spanFrom reached <;> rw [isSpan] at assessed <;> cases assessed
              exact .trailing atEnd isSpan
    | unread =>
        cases known with
        | some cause =>
            cases assessed
            exact .knownAtStart
        | none =>
            simp only [assessReading] at assessed
            cases isSpan : spanFrom (Place.ofString rule 0) <;> rw [isSpan] at assessed <;>
              cases assessed
            exact .notParsed isSpan
    | tooDeep limit =>
        cases assessed
        exact .tooDeep
  · intro comesTo
    cases comesTo with
    | definite atEnd => simp [assessReading, atEnd]
    | knownBehind unfinished => simp [assessReading, unfinished]
    | trailing unfinished isSpan => simp [assessReading, unfinished, isSpan, Except.map]
    | knownAtStart => rfl
    | notParsed isSpan => simp [assessReading, isSpan, Except.map]
    | tooDeep => rfl

theorem exists_assessReading {rule : String} {fault : Option Cause} {reply : Reply}
    (inside : ∀ truth reached, reply = .judged truth reached → reached.Inside) :
    ∃ assessment, assessReading rule fault reply = .ok assessment := by
  cases reply with
  | judged truth reached =>
      obtain ⟨span, isSpan⟩ := exists_spanFrom (inside truth reached rfl)
      cases fault <;> by_cases atEnd : reached.atEnd <;>
        simp [assessReading, atEnd, isSpan, Except.map]
  | unread =>
      obtain ⟨span, isSpan⟩ := exists_spanFrom (inside_ofString_zero rule)
      cases fault <;> simp [assessReading, isSpan, Except.map]
  | tooDeep limit => exact ⟨_, rfl⟩

/-- What a rule amounts to for an operand, under the usual limits, if no alarm breaks the
judgement off. -/
def assess (rule : String) (operand : Operand) : Except SpanFault Assessment :=
  let (reading, after) :=
    (Interpreter.new .standard operand Gate.standardLimit).read rule
  assessReading rule after.cause? reading.reply

theorem assess_eq (rule : String) (operand : Operand) :
    assess rule operand =
      assessReading rule
        ((Interpreter.new .standard operand Gate.standardLimit).read rule).2.cause?
        ((Interpreter.new .standard operand Gate.standardLimit).read rule).1.reply := rfl

/-- Every rule amounts to something for every operand. -/
theorem exists_assess (rule : String) (operand : Operand) :
    ∃ assessment, assess rule operand = .ok assessment :=
  exists_assessReading fun _ _ judged => (Interpreter.inside_of_judged judged).2

section Manners

variable {rule : String} {operand : Operand} {assessment : Assessment}

/-- What an interpreter knows to be wrong is that a rule cannot be evaluated. -/
theorem Interpreter.code_ne_of_cause? {interpreter : Interpreter} {cause : Cause} {code : Code}
    (known : interpreter.cause? = some cause) (other : AlarmKind.ofCode code ≠ .notEvaluated) :
    cause.code ≠ code := by
  obtain ⟨fault, -, rfl⟩ := Option.map_eq_some_iff.1 known
  rintro rfl
  refine other ?_
  cases fault <;> rfl

/-- A reading that was not stopped does not amount to nesting too deeply. -/
theorem Reply.ComesTo.code_ne_tooDeep {known : Option Cause} {reply : Reply} {cause : Cause}
    (comesTo : reply.ComesTo rule known (.indefinite cause))
    (unstopped : ∀ limit, reply ≠ .tooDeep limit)
    (other : ∀ cause, known = some cause → cause.code ≠ .maxDepthExceeded) :
    cause.code ≠ .maxDepthExceeded := by
  cases comesTo with
  | knownBehind => exact other cause rfl
  | trailing => exact nofun
  | knownAtStart => exact other cause rfl
  | notParsed => exact nofun
  | tooDeep => exact absurd rfl (unstopped _)

/-- The lenient manner goes on with what the rule amounts to, stopped or not. -/
theorem assessIn_lenient (assessed : assess rule operand = .ok assessment) :
    assessIn .lenient rule operand = .ok assessment := by
  rw [assess_eq] at assessed
  exact congrArg (·.mapError Failure.span) assessed

/-- The strict manner goes on with what the rule amounts to, unless the alarm of a full gate
breaks it off.  So nesting too deeply is nothing that it goes on with. -/
theorem assessIn_strict (assessed : assess rule operand = .ok assessment) :
    (∃ limit, assessment = .indefinite (.tooDeep limit) ∧
      assessIn .strict rule operand = .error (.alarm (.ofFullGate limit))) ∨
    assessIn .strict rule operand = .ok assessment ∧
      ∀ cause, assessment = .indefinite cause → cause.code ≠ .maxDepthExceeded := by
  rw [assess_eq] at assessed
  unfold assessIn
  dsimp only
  generalize ((Interpreter.new .standard operand Gate.standardLimit).read rule).1.reply =
    reply at assessed
  have unstopped (noLimit : ∀ limit, reply ≠ .tooDeep limit) (cause : Cause)
      (indefinite : assessment = .indefinite cause) : cause.code ≠ .maxDepthExceeded :=
    (indefinite ▸ assessReading_ok_iff.1 assessed).code_ne_tooDeep noLimit
      fun _ known => Interpreter.code_ne_of_cause? known (by decide)
  cases reply with
  | judged truth reached =>
      exact .inr ⟨congrArg (·.mapError Failure.span) assessed, unstopped nofun⟩
  | unread => exact .inr ⟨congrArg (·.mapError Failure.span) assessed, unstopped nofun⟩
  | tooDeep limit =>
      cases assessed
      exact .inl ⟨limit, rfl, rfl⟩

theorem verdict_of_assess (assessed : assess rule operand = .ok assessment) :
    verdict rule operand = .ok (.ofOption assessment.truth?) := by
  rw [verdict, assessIn_lenient assessed]

theorem truth_of_definite {holds : Bool} (assessed : assess rule operand = .ok (.definite holds)) :
    truth rule operand = .ok holds := by
  rcases assessIn_strict assessed with ⟨limit, indefinite, -⟩ | ⟨finished, -⟩
  · cases indefinite
  · rw [truth, finished]

/-- Whether an alarm breaks the strict judgement off or is raised when the reading is over, it
is the one that belongs to the cause. -/
theorem truth_of_indefinite {cause : Cause}
    (assessed : assess rule operand = .ok (.indefinite cause)) :
    truth rule operand = .error (.alarm (.ofCause cause)) := by
  rcases assessIn_strict assessed with ⟨limit, isTooDeep, broken⟩ | ⟨finished, other⟩
  · cases isTooDeep
    rw [truth, broken, Alarm.ofFullGate_eq]
  · rw [truth, finished, ← Alarm.ofReading_eq (other cause rfl)]

/-- Both manners of judging show what the rule amounts to. -/
theorem exists_judge_and_insist (rule : String) (operand : Operand) :
    ∃ assessment, assess rule operand = .ok assessment ∧
      judge (.usable rule) (.usable operand) = .ok (.ofOption assessment.truth?) ∧
      insist (.usable rule) (.usable operand) =
        match assessment with
        | .definite truth => .ok truth
        | .indefinite cause => .error (.alarm (.ofCause cause)) := by
  obtain ⟨assessment, assessed⟩ := exists_assess rule operand
  refine ⟨assessment, assessed, verdict_of_assess assessed, ?_⟩
  cases assessment with
  | definite truth => exact truth_of_definite assessed
  | indefinite cause => exact truth_of_indefinite assessed

/-- What a rule amounts to is all that either manner of judging sees of it and of the
operand. -/
theorem judge_and_insist_congr {rule' : String} {operand' : Operand}
    (same : assess rule operand = assess rule' operand') :
    judge (.usable rule) (.usable operand) = judge (.usable rule') (.usable operand') ∧
      insist (.usable rule) (.usable operand) = insist (.usable rule') (.usable operand') := by
  obtain ⟨assessment, assessed, judged, insisted⟩ := exists_judge_and_insist rule operand
  obtain ⟨other, assessed', judged', insisted'⟩ := exists_judge_and_insist rule' operand'
  obtain rfl : assessment = other :=
    Except.ok.inj (assessed.symm.trans (same.trans assessed'))
  exact ⟨judged.trans judged'.symm, insisted.trans insisted'.symm⟩

end Manners

section Verdicts

variable {rule : String} {operand : Operand}

/-- No two truth values share a verdict, nor do a truth value and its lack. -/
theorem Verdict.ofOption_inj {truth other : Option Bool} :
    Verdict.ofOption truth = .ofOption other ↔ truth = other := by
  constructor
  · intro same
    rw [← Verdict.toOption_ofOption truth, same, Verdict.toOption_ofOption]
  · exact congrArg Verdict.ofOption

theorem Verdict.ofOption_eq_indeterminate_iff {truth : Option Bool} :
    Verdict.ofOption truth = .indeterminate ↔ truth = none := by
  rw [← Verdict.ofOption_inj]
  rfl

/-- The lenient judgement gives a truth value exactly if the rule is definite. -/
theorem judge_ofOption_iff (truth : Bool) :
    judge (.usable rule) (.usable operand) = .ok (.ofOption (some truth)) ↔
      assess rule operand = .ok (.definite truth) := by
  obtain ⟨assessment, assessed, judged, -⟩ := exists_judge_and_insist rule operand
  rw [judged, assessed, Except.ok.injEq, Verdict.ofOption_inj]
  cases assessment with
  | definite found => simp [Assessment.truth?]
  | indefinite cause => simp [Assessment.truth?]

theorem judge_indeterminate_iff :
    judge (.usable rule) (.usable operand) = .ok .indeterminate ↔
      ∀ truth, assess rule operand ≠ .ok (.definite truth) := by
  obtain ⟨assessment, assessed, judged, -⟩ := exists_judge_and_insist rule operand
  rw [judged, assessed, Except.ok.injEq, Verdict.ofOption_eq_indeterminate_iff]
  cases assessment with
  | definite found => simp [Assessment.truth?]
  | indefinite cause => simp [Assessment.truth?]

end Verdicts

end PluralForms
