/-
# Alarms about what a rule computes

An alarm about a divisor of zero or an interval with too many members is raised for
every rule that goes on with such a fault behind fewer blocks than there are levels.
It does not say that the rule is spelled correctly: what stands behind the fault is
never looked at.  The rule can be spelled exactly if the text that starts with the
fault can.

A rule that cannot be spelled, not even with what is not permitted, and that has no
such fault raises an alarm about its text or about its nesting.
-/

import PluralForms.Proofs.Judgement.Depth
import PluralForms.Proofs.Judgement.Fault
import PluralForms.Proofs.Judgement.Manners

namespace PluralForms

open Rule Text

namespace Rule

section Spelled

variable {text part rest : List Char}

namespace Reader

/-- Where a relation is read, it is the one that is spelled, permitted or not. -/
theorem Takes.eq_of_spelled {only other : Relation} {behind : List Char}
    (taken : Takes (relation true) (part ++ rest) other behind) (spelled : only.SpelledBy part)
    (clear : ClearOf Char.isDigit rest) : other = only ∧ behind = rest := by
  by_cases permitted : only.Permitted
  · exact taken.unique (takes_relation spelled permitted clear)
  · obtain ⟨fault, faulty⟩ := FaultyStart.of_relation spelled permitted clear
    exact absurd (refuses_relation_of_faulty faulty) taken.not_refuses

/-- In a spelling, what stands behind a first relation that is read is spelled too. -/
theorem exists_spelledBy_behind {first : Relation} {connective : Connective} {chain : Condition}
    {before after remaining : List Char}
    (taken : Takes (relation true) text first
      (before ++ (connective.letters ++ (after ++ remaining))))
    (gapBefore : IsGap before) (gapAfter : IsGap after) (clear : ClearOf isBlank remaining)
    (spelled : chain.SpelledBy text) : ∃ rest : Condition, rest.SpelledBy remaining := by
  cases spelled with
  | @relation only _ spelled =>
      rw [← List.append_nil text] at taken
      obtain ⟨-, nothing⟩ := taken.eq_of_spelled spelled clearOf_nil
      exact absurd (List.append_eq_nil_iff.1 nothing).1 gapBefore.nonempty
  | @joined other connective' rest relation before' after' remaining' otherSpelled gapBefore'
      gapAfter' restSpelled =>
      simp only [List.append_assoc] at taken
      obtain ⟨-, same⟩ := taken.eq_of_spelled otherSpelled (gapBefore'.clearOf_isDigit _)
      have clear' := restSpelled.clearOf_isBlank []
      rw [List.append_nil] at clear'
      obtain rfl := behind_connective_unique gapBefore gapAfter clear gapBefore' gapAfter' clear'
        same
      exact ⟨rest, restSpelled⟩

end Reader

/-- Behind blocks, a text is spelled exactly if the whole is. -/
theorem Blocks.exists_spelledBy_iff {count : Nat} {run : List Char} (blocks : Blocks count run)
    (clear : ClearOf isBlank rest) :
    (∃ chain : Condition, chain.SpelledBy (run ++ rest)) ↔
      ∃ chain : Condition, chain.SpelledBy rest := by
  induction blocks with
  | nil => exact Iff.rfl
  | @cons first count relation before after others firstSpelled permitted gapBefore connective
      gapAfter blocks ih =>
      rw [← ih]
      simp only [List.append_assoc]
      constructor
      · rintro ⟨chain, spelled⟩
        have clearOthers := blocks.clearOf_isBlank_append clear
        have taken := Reader.takes_relation firstSpelled permitted
          (gapBefore.clearOf_isDigit (connective.letters ++ (after ++ (others ++ rest))))
        exact Reader.exists_spelledBy_behind taken gapBefore gapAfter clearOthers spelled
      · rintro ⟨chain, spelled⟩
        refine ⟨.joined first connective chain, ?_⟩
        simpa using Condition.SpelledBy.joined firstSpelled gapBefore gapAfter spelled

/-- The last character is a digit. -/
def EndsInDigit (text : List Char) : Prop :=
  ∃ c ∈ text.getLast?, c.isDigit = true

theorem IsNumeral.endsInDigit {value : Nat} {digits : List Char} (numeral : IsNumeral value digits)
    (text : List Char) : EndsInDigit (text ++ digits) := by
  obtain ⟨nonempty, -, digit, -⟩ := numeral
  refine ⟨digits.getLast nonempty, ?_, digit _ (List.getLast_mem nonempty)⟩
  simp [List.getLast?_append, List.getLast?_eq_some_getLast nonempty]

theorem Relation.SpelledBy.endsInDigit {only : Relation} (spelled : only.SpelledBy part)
    (text : List Char) : EndsInDigit (text ++ part) := by
  cases spelled with
  | equality _ _ _ _ numeral =>
      rw [← List.append_assoc]
      exact numeral.endsInDigit _
  | membership _ _ _ _ intervalSpelled =>
      cases intervalSpelled with
      | bounds _ lastNumeral =>
          simp only [← List.append_assoc]
          exact lastNumeral.endsInDigit _
  | within _ _ _ intervalSpelled =>
      cases intervalSpelled with
      | bounds _ lastNumeral =>
          simp only [← List.append_assoc]
          exact lastNumeral.endsInDigit _

/-- Every spelling ends with a numeral. -/
theorem Condition.SpelledBy.endsInDigit {chain : Condition} (spelled : chain.SpelledBy part)
    (text : List Char) : EndsInDigit (text ++ part) := by
  induction spelled generalizing text with
  | relation spelled => exact spelled.endsInDigit text
  | joined _ _ _ _ ih =>
      rw [← List.append_assoc]
      exact ih _

end Spelled

/-- The rule goes on with this text, which starts with a fault, behind fewer blocks than
the usual limit on nesting allows. -/
def FaultBehindBlocks (rule rest : List Char) : Prop :=
  ∃ count run fault, count < 100 ∧ Blocks count run ∧ rule = run ++ rest ∧
    FaultyStart true rest fault

end Rule

/-- What is wrong has to do with a value: a divisor of zero, or an interval with too many
members. -/
def Cause.Forbids (cause : Cause) : Prop :=
  cause.code = .modulusZero ∨ cause.code = .rangeTooLarge

/-- The alarm says that the rule could not be evaluated because of a value. -/
def Alarm.Forbids (alarm : Alarm) : Prop :=
  alarm.kind = .notEvaluated ∧ ∃ report, alarm.report = some report ∧
    (report.code = .modulusZero ∨ report.code = .rangeTooLarge)

theorem Alarm.forbids_ofCause {cause : Cause} (forbids : cause.Forbids) :
    (ofCause cause).Forbids := by
  refine ⟨?_, cause.report, rfl, forbids⟩
  rcases forbids with code | code <;> exact congrArg AlarmKind.ofCode code

/-- With a count, every fault forbids a value. -/
theorem Rule.FaultyStart.forbids {text : List Char} {fault : Fault}
    (faulty : FaultyStart true text fault) (operand : Operand) :
    (fault.cause operand).Forbids := by
  cases faulty with
  | zeroDivisor => exact .inl rfl
  | membership => exact .inr rfl
  | within => exact .inr rfl

/-- Whatever is said of a rule is the cause that is known, or else it concerns the text
or the nesting. -/
theorem assessReading_indefinite_cases {rule : String} {known : Option Cause} {reply : Reply}
    {cause : Cause} (assessed : assessReading rule known reply = .ok (.indefinite cause)) :
    known = some cause ∨ AlarmKind.ofCode cause.code = .badText ∨
      AlarmKind.ofCode cause.code = .tooDeep := by
  cases assessReading_ok_iff.1 assessed with
  | knownBehind => exact .inl rfl
  | trailing => exact .inr (.inl rfl)
  | knownAtStart => exact .inl rfl
  | notParsed => exact .inr (.inl rfl)
  | tooDeep => exact .inr (.inr rfl)

/-- A known cause is what is said of every rule that was neither read to its end nor
stopped. -/
theorem assessReading_of_known {rule : String} {reply : Reply} {cause : Cause}
    (unfinished : ∀ truth reached, reply = .judged truth reached → ¬ reached.atEnd = true)
    (unstopped : ∀ limit, reply ≠ .tooDeep limit) :
    assessReading rule (some cause) reply = .ok (.indefinite cause) := by
  cases reply with
  | judged truth reached => simp [assessReading, unfinished truth reached rfl]
  | unread => rfl
  | tooDeep limit => exact absurd rfl (unstopped limit)

section Finite

variable {operand : Operand} {n : Int}

/-- A new interpreter keeps a fault exactly if the rule has it behind blocks. -/
theorem Interpreter.fault_iff_faultBehindBlocks (finite : operand.count = some n) (rule : String) :
    (∃ fault, ((Interpreter.new .standard operand Gate.standardLimit).read rule).2.fault =
      some fault) ↔ ∃ rest, FaultBehindBlocks rule.toList rest := by
  have attempt : (Interpreter.new .standard operand Gate.standardLimit).attempt rule =
      Reader.condition true 100 (Head.start rule.toList) := by
    rw [attempt_new_of_finite finite]
    rfl
  rw [fault_read_new, attempt]
  constructor
  · rintro ⟨fault, left⟩
    obtain ⟨count, run, rest, fewer, blocks, whole, faulty⟩ := Reader.fault_iff_blocks.1 left
    exact ⟨rest, count, run, fault, fewer, blocks, whole, faulty⟩
  · rintro ⟨rest, count, run, fault, fewer, blocks, whole, faulty⟩
    exact ⟨fault, Reader.fault_iff_blocks.2 ⟨count, run, rest, fewer, blocks, whole, faulty⟩⟩

/-- A fault that is kept is what is said of the rule. -/
theorem assess_of_fault {rule : String} {fault : Fault} (finite : operand.count = some n)
    (left : ((Interpreter.new .standard operand Gate.standardLimit).read rule).2.fault =
      some fault) :
    assess rule operand = .ok (.indefinite (fault.cause operand)) ∧
      (fault.cause operand).Forbids := by
  have unstopped (limit : Int) :
      ((Interpreter.new .standard operand Gate.standardLimit).read rule).1.reply ≠
        .tooDeep limit := by
    intro stopped
    have faultless := (Interpreter.fault_eq_none_of_tooDeep finite stopped).2
    exact nomatch faultless.symm.trans left
  have unended := Interpreter.ending_ne_tooDeep unstopped
  obtain ⟨rest, givesUp, faulty⟩ := (Interpreter.fault_attempt_iff unended).1
    (Interpreter.fault_read_new.symm.trans left)
  have countable : operand.count.isSome = true := by rw [finite, Option.isSome_some]
  have unfinished (truth : Bool) (reached : Place)
      (judged : ((Interpreter.new .standard operand Gate.standardLimit).read rule).1.reply =
        .judged truth reached) : ¬ reached.atEnd = true :=
    fun atEnd => Interpreter.not_givesUpAt_of_atEnd judged atEnd givesUp
  constructor
  · rw [assess_eq, Interpreter.cause?, left]
    exact assessReading_of_known unfinished unstopped
  · rw [show (Interpreter.new .standard operand Gate.standardLimit).operand.count.isSome = true
      from countable] at faulty
    exact faulty.forbids operand

/-- What is said of a rule that is not definite is such a fault, or it concerns the text or
the nesting. -/
theorem assess_indefinite_cases {rule : String} {cause : Cause} (finite : operand.count = some n)
    (assessed : assess rule operand = .ok (.indefinite cause)) :
    (cause.Forbids ∧ ∃ rest, FaultBehindBlocks rule.toList rest) ∨
      AlarmKind.ofCode cause.code = .badText ∨ AlarmKind.ofCode cause.code = .tooDeep := by
  rw [assess_eq] at assessed
  rcases assessReading_indefinite_cases assessed with known | concerned
  · obtain ⟨fault, left, rfl⟩ := Option.map_eq_some_iff.1 known
    exact .inl ⟨(assess_of_fault finite left).2,
      (Interpreter.fault_iff_faultBehindBlocks finite rule).1 ⟨fault, left⟩⟩
  · exact .inr concerned

/-- An alarm about a value is raised exactly for a fault behind blocks.  The rule is
spelled correctly exactly if the text from the fault on is.  For other rules that are
not spelled correctly an alarm concerns the text or the nesting. -/
theorem forbidding_alarm_iff (finite : operand.count = some n) (rule : String) :
    let answer := insist (.usable rule) (.usable operand)
    let Forbidden := ∃ alarm, answer = .error (.alarm alarm) ∧ alarm.Forbids
    let Spelled (text : List Char) := ∃ chain : Condition, chain.SpelledBy text
    (Forbidden ↔ ∃ rest, FaultBehindBlocks rule.toList rest) ∧
    (∀ rest, FaultBehindBlocks rule.toList rest → (Spelled rule.toList ↔ Spelled rest)) ∧
    (¬ Forbidden → ¬ Spelled rule.toList →
      ∃ alarm, answer = .error (.alarm alarm) ∧
        (alarm.kind = .badText ∨ alarm.kind = .tooDeep)) := by
  intro answer Forbidden Spelled
  obtain ⟨assessment, assessed, -, insisted⟩ := exists_judge_and_insist rule operand
  change answer = _ at insisted
  refine ⟨?_, ?_, ?_⟩
  · constructor
    · rintro ⟨alarm, raised, kind, -⟩
      rw [insisted] at raised
      cases assessment with
      | definite truth => cases raised
      | indefinite cause =>
          cases raised
          rcases assess_indefinite_cases finite assessed with ⟨-, faulty⟩ | badText | tooDeep
          · exact faulty
          · exact nomatch badText.symm.trans kind
          · exact nomatch tooDeep.symm.trans kind
    · intro faulty
      obtain ⟨fault, left⟩ := (Interpreter.fault_iff_faultBehindBlocks finite rule).2 faulty
      obtain ⟨said, forbids⟩ := assess_of_fault finite left
      obtain rfl := Except.ok.inj (assessed.symm.trans said)
      exact ⟨_, insisted, Alarm.forbids_ofCause forbids⟩
  · rintro rest ⟨count, run, fault, -, blocks, whole, faulty⟩
    rw [whole]
    exact blocks.exists_spelledBy_iff faulty.clearOf_isBlank
  · intro allowed unspelled
    cases assessment with
    | definite truth =>
        obtain ⟨chain, judgeable, -⟩ := (assess_definite_iff finite).1 assessed
        exact absurd ⟨chain, judgeable.spelled⟩ unspelled
    | indefinite cause =>
        refine ⟨.ofCause cause, insisted, ?_⟩
        rcases assess_indefinite_cases finite assessed with ⟨forbids, -⟩ | concerned
        · exact absurd ⟨_, insisted, Alarm.forbids_ofCause forbids⟩ allowed
        · exact concerned

/-- An alternative that divides by zero raises an alarm about a value, whatever else is
wrong with the rule. -/
theorem exists_alarm_of_zeroDivisor :
    (Operand.integer 5).count = some 5 ∧
      FaultBehindBlocks "n is 1 or n mod 0 x".toList "n mod 0 x".toList ∧
      ∃ alarm, insist (.usable "n is 1 or n mod 0 x") (.usable (.integer 5)) =
        .error (.alarm alarm) ∧ alarm.Forbids := by
  have finite : (Operand.integer 5).count = some 5 := rfl
  have gap : IsGap [' '] := .singleton rfl
  have one : IsNumeral 1 ['1'] := .singleton rfl rfl
  have zero : IsNumeral 0 ['0'] := .singleton rfl rfl
  have faulty : FaultBehindBlocks "n is 1 or n mod 0 x".toList "n mod 0 x".toList :=
    ⟨1, "n is 1 or ".toList, .zeroDivisor, by decide,
      .cons (.equality .count gap .absent gap one) trivial gap .either gap .nil, rfl,
      .zeroDivisor gap gap zero (.inr (clearOf_cons.2 (by decide)))⟩
  exact ⟨finite, faulty, (forbidding_alarm_iff finite _).1.2 ⟨_, faulty⟩⟩

/-- An alarm about a divisor of zero is raised although the rule is not spelled correctly,
whatever is permitted. -/
theorem not_spelled_of_zeroDivisor :
    insist (.usable "n mod 0 x") (.usable (.integer 5)) =
        .error (.alarm (.ofCause .modulusZero)) ∧
      (Alarm.ofCause .modulusZero).Forbids ∧
      ¬ ∃ chain : Condition, chain.SpelledBy "n mod 0 x".toList := by
  refine ⟨by decide +kernel, Alarm.forbids_ofCause (.inl rfl), ?_⟩
  rintro ⟨chain, spelled⟩
  obtain ⟨c, last, isDigit⟩ := spelled.endsInDigit []
  obtain rfl : 'x' = c := Option.some.inj last
  exact absurd isDigit (by decide)

end Finite

end PluralForms
