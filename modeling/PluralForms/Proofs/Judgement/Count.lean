/-
# What does not depend on the count

Two interpreters whose operands both have a count read every rule alike: they
stop at the same place, leave the same fault, and differ at most in the truth
that they find.  Whether a rule can be judged, and the alarm that says why not,
is therefore a matter of the rule alone.  The same holds of a reader that has the
count at hand and judges while it reads: it never reads on where another count would
have stopped it.

The only fault that shows the operand is that it has no count.  It is the one
that has to be kept out of the interpreters as they read one rule after another.
-/

import PluralForms.Proofs.Judgement.Assessment
import PluralForms.Proofs.Judgement.Fused

namespace PluralForms

open Rule Text

/-- Two replies that differ at most in the truth that was found. -/
inductive Reply.Agrees : Reply → Reply → Prop
  | judged (truth other : Bool) (reached : Place) :
      Agrees (.judged truth reached) (.judged other reached)
  | unread : Agrees .unread .unread
  | tooDeep (limit : Int) : Agrees (.tooDeep limit) (.tooDeep limit)

/-- Faults that are the same and no matter of the operand. -/
def SharedFault (fault other : Fault) : Prop :=
  fault = other ∧ fault ≠ .noCount

/-- Whatever the operands are, shared faults have the same cause. -/
theorem SharedFault.cause_eq {fault other : Fault} (shared : SharedFault fault other)
    (first second : Operand) : fault.cause first = other.cause second := by
  obtain ⟨rfl, counted⟩ := shared
  cases fault with
  | noCount => exact absurd rfl counted
  | zeroDivisor => rfl
  | oversized interval => rfl

/-- Faults that are both absent, or both present and shared, have the same cause. -/
theorem map_cause_eq {fault other : Option Fault} (shared : Option.Rel SharedFault fault other)
    (first second : Operand) :
    fault.map (·.cause first) = other.map (·.cause second) := by
  cases shared with
  | some shared => exact congrArg some (shared.cause_eq first second)
  | none => rfl

namespace Interpreter

/-- Interpreters that are in the same state but for their counts. -/
structure Alike (first second : Interpreter) : Prop where
  finite : first.operand.count.isSome = true
  finite' : second.operand.count.isSome = true
  gate : first.gate = second.gate
  fault : Option.Rel SharedFault first.fault second.fault

variable {first second : Interpreter} {rule : String}

theorem Alike.attempt_eq (alike : first.Alike second) (rule : String) :
    first.attempt rule = second.attempt rule := by
  unfold attempt
  rw [alike.finite, alike.finite', alike.gate]

/-- With a count, reading leaves only faults that any other operand with a count
would leave. -/
theorem Alike.fault_attempt (alike : first.Alike second) (rule : String) :
    Option.Rel SharedFault (first.attempt rule).fault (second.attempt rule).fault := by
  have same (fault : Fault) (possible : Reader.Possible first.operand.count.isSome fault) :
      SharedFault fault fault :=
    ⟨rfl, possible alike.finite⟩
  have corresponds : Reader.Corresponds SharedFault Eq 0 _ _ :=
    Reader.corresponds_condition same first.gate.room
  rw [← alike.attempt_eq]
  exact (corresponds (Head.start rule.toList)).fault

theorem Alike.reply_agrees (alike : first.Alike second) (rule : String)
    (ending : Ending Condition) :
    (first.reply rule ending).Agrees (second.reply rule ending) := by
  obtain ⟨n, isCount⟩ := Option.isSome_iff_exists.1 alike.finite
  obtain ⟨m, isCount'⟩ := Option.isSome_iff_exists.1 alike.finite'
  unfold reply
  rw [isCount, isCount', alike.gate]
  cases ending with
  | accepted chain head => exact .judged _ _ _
  | refused => exact .unread
  | tooDeep => exact .tooDeep _

/-- Reading a rule keeps interpreters alike, and the replies agree. -/
theorem Alike.read (alike : first.Alike second) (rule : String) :
    (first.read rule).1.reply.Agrees (second.read rule).1.reply ∧
      (first.read rule).2.Alike (second.read rule).2 := by
  have sameAttempt := alike.attempt_eq rule
  refine ⟨?_, alike.finite, alike.finite', ?_, ?_⟩
  · show (first.reply rule (first.attempt rule).ending).Agrees
      (second.reply rule (second.attempt rule).ending)
    rw [sameAttempt]
    exact alike.reply_agrees rule _
  · show (first.attempt rule).log.foldl Gate.after first.gate =
      (second.attempt rule).log.foldl Gate.after second.gate
    rw [sameAttempt, alike.gate]
  · exact rel_or (alike.fault_attempt rule) alike.fault

theorem Alike.cause?_eq (alike : first.Alike second) : first.cause? = second.cause? :=
  map_cause_eq alike.fault _ _

theorem alike_new {operand other : Operand} (finite : operand.count.isSome = true)
    (finite' : other.count.isSome = true) (budget : FrameBudget) (requestedDepth : Int) :
    (new budget operand requestedDepth).Alike (new budget other requestedDepth) :=
  ⟨finite, finite', rfl, .none⟩

end Interpreter

/-- Replies that agree come to the same, unless both are definite. -/
theorem assessReading_of_agrees {rule : String} {fault : Option Cause} {reply other : Reply}
    (agrees : reply.Agrees other) :
    (∃ truth truth', assessReading rule fault reply = .ok (.definite truth) ∧
      assessReading rule fault other = .ok (.definite truth')) ∨
    assessReading rule fault reply = assessReading rule fault other := by
  cases agrees with
  | judged truth other reached =>
      by_cases atEnd : reached.atEnd = true
      · exact .inl ⟨truth, other, if_pos atEnd, if_pos atEnd⟩
      · right
        simp only [assessReading, if_neg atEnd]
  | unread => exact .inr rfl
  | tooDeep limit => exact .inr rfl

section Finite

variable {first second : Operand}

/-- For any two counts a rule is definite, or comes to the same. -/
theorem assess_of_finite (rule : String) (finite : first.count.isSome = true)
    (finite' : second.count.isSome = true) :
    (∃ truth truth', assess rule first = .ok (.definite truth) ∧
      assess rule second = .ok (.definite truth')) ∨
    assess rule first = assess rule second := by
  have alike := Interpreter.alike_new finite finite' .standard Gate.standardLimit
  obtain ⟨agrees, after⟩ := alike.read rule
  rw [assess_eq, assess_eq, after.cause?_eq]
  exact assessReading_of_agrees agrees

/-- For any two counts the rule can be judged, or for neither. -/
theorem judge_indeterminate_congr (rule : String) (finite : first.count.isSome = true)
    (finite' : second.count.isSome = true) :
    judge (.usable rule) (.usable first) = .ok .indeterminate ↔
      judge (.usable rule) (.usable second) = .ok .indeterminate := by
  rw [judge_indeterminate_iff, judge_indeterminate_iff]
  rcases assess_of_finite rule finite finite' with ⟨truth, truth', definite, definite'⟩ | same
  · exact iff_of_false (fun never => never truth definite) (fun never => never truth' definite')
  · rw [same]

/-- No count makes a rule definite that is not definite for every other count,
and the alarm about a rule that is not is always the same.  Nor does it matter, with any
limit on nesting, which count a reader judges by on the way: it accepts, refuses or gives up
at the same place and leaves the same cause, and that is what an interpreter answers. -/
theorem judge_independent_of_count (rule : String) (finite : first.count.isSome = true)
    (finite' : second.count.isSome = true) :
    (judge (.usable rule) (.usable first) = .ok .indeterminate ↔
      judge (.usable rule) (.usable second) = .ok .indeterminate) ∧
    (judge (.usable rule) (.usable first) = .ok .indeterminate →
      ∃ alarm, insist (.usable rule) (.usable first) = .error (.alarm alarm) ∧
        insist (.usable rule) (.usable second) = .error (.alarm alarm)) ∧
    ∀ (budget : FrameBudget) (requestedDepth : Int),
      let fresh (operand : Operand) := Interpreter.new budget operand requestedDepth
      let after (operand : Operand) := (fresh operand).read rule
      let fused (operand : Operand) := (fresh operand).fusedAttempt rule
      let answer (operand : Operand) := (fresh operand).fusedReply rule (fused operand).ending
      ((after first).1.reply.Agrees (after second).1.reply ∧
        (after first).2.cause? = (after second).2.cause?) ∧
      ((answer first).Agrees (answer second) ∧
        (fused first).fault.map (·.cause first) = (fused second).fault.map (·.cause second)) ∧
      ∀ operand, (after operand).1.reply = answer operand ∧
        (after operand).2.cause? = (fused operand).fault.map (·.cause operand) := by
  refine ⟨judge_indeterminate_congr rule finite finite', ?_, ?_⟩
  · intro indeterminate
    rw [judge_indeterminate_iff] at indeterminate
    rcases assess_of_finite rule finite finite' with ⟨truth, -, definite, -⟩ | same
    · exact absurd definite (indeterminate truth)
    obtain ⟨assessment, assessed, -, insisted⟩ := exists_judge_and_insist rule first
    cases assessment with
    | definite truth => exact absurd assessed (indeterminate truth)
    | indefinite cause =>
        have sameInsisted := (judge_and_insist_congr same).2
        exact ⟨.ofCause cause, insisted, sameInsisted.symm.trans insisted⟩
  · intro budget requestedDepth fresh after fused answer
    have sameAnswer (operand : Operand) : (after operand).1.reply = answer operand ∧
        (after operand).2.cause? = (fused operand).fault.map (·.cause operand) :=
      ⟨((fresh operand).read_eq_fused rule).1,
        Interpreter.cause?_read_new_eq_fused budget operand requestedDepth rule⟩
    have alike := Interpreter.alike_new finite finite' budget requestedDepth
    obtain ⟨agrees, afterwards⟩ := alike.read rule
    refine ⟨⟨agrees, afterwards.cause?_eq⟩, ⟨?_, ?_⟩, sameAnswer⟩
    · rw [← (sameAnswer first).1, ← (sameAnswer second).1]
      exact agrees
    · rw [← (sameAnswer first).2, ← (sameAnswer second).2]
      exact afterwards.cause?_eq

/-- Two and a half has the count two, so it is refused what minus seven is. -/
theorem exists_alarm_of_trailingInput :
    (Operand.integer (-7)).count.isSome = true ∧
    (Operand.decimal (.finite false 25 (-1))).count.isSome = true ∧
      ∃ alarm,
        insist (.usable "n is 1 or") (.usable (.integer (-7))) = .error (.alarm alarm) ∧
        insist (.usable "n is 1 or") (.usable (.decimal (.finite false 25 (-1)))) =
          .error (.alarm alarm) :=
  ⟨rfl, rfl, (judge_independent_of_count "n is 1 or" rfl rfl).2.1 rfl⟩

end Finite

end PluralForms
