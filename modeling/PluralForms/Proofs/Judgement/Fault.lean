/-
# Why a rule was not read any further

A rule that is not stopped is read up to some place, or not at all.  If it goes on
there with a connective, what stands behind the connective is where its reading gave
up; if nothing was read, that is the whole rule.  A new interpreter knows of something
wrong exactly if this text starts with a fault, and then it knows of this one.

So a rule that is read to its end leaves nothing, although parts of it were tried
several times; and however often a fault is met in one rule, it is always the same.
-/

import PluralForms.Proofs.Judgement.Assessment
import PluralForms.Proofs.Spelling.GivingUp

namespace PluralForms

open Rule Text

/-- What the rule goes on with where its reading gave up. -/
inductive Reply.GivesUpAt (rule : String) : Reply → List Char → Prop
  | start : GivesUpAt rule .unread rule.toList
  | connective {truth : Bool} {reached : Place} {before after rest : List Char}
      (gapBefore : IsGap before) (connective : Connective) (gapAfter : IsGap after)
      (ahead_eq : reached.ahead = before ++ (connective.letters ++ (after ++ rest))) :
      GivesUpAt rule (.judged truth reached) rest

namespace Interpreter

variable {interpreter : Interpreter} {rule : String} {rest : List Char} {fault : Fault}

/-- All faults that are met in a rule, the earliest first, those included that are met
by a reading that was given up for another one. -/
def faultsMet (interpreter : Interpreter) (rule : String) : List Fault :=
  (Recorder.condition interpreter.operand.count.isSome interpreter.gate.room
    (Head.start rule.toList)).faults

/-- No other fault is met. -/
theorem fault_of_mem_faultsMet (met : fault ∈ interpreter.faultsMet rule) :
    (interpreter.attempt rule).fault = some fault :=
  Recorder.fault_of_mem_faults met 0

/-- The characters ahead of the place in a reply are those ahead of the head. -/
theorem ahead_reached {chain : Condition} {head : Head}
    (accepted : (interpreter.attempt rule).ending = .accepted chain head) :
    (Place.mk rule.toList head.offset).ahead = head.ahead := by
  obtain ⟨text, -, -, -, whole, offset⟩ := spelled_of_accepted accepted
  have fits : head.offset ≤ rule.toList.length := by
    rw [whole, offset, List.length_append]
    exact Nat.le_add_right _ _
  rw [Place.ahead, Place.boundary, boundary_natCast fits]
  simp only [whole, offset, List.drop_left]

/-- The reply gives up where the reading does. -/
theorem givesUpAt_reply_iff (unstopped : (interpreter.attempt rule).ending ≠ .tooDeep) :
    (interpreter.read rule).1.reply.GivesUpAt rule rest ↔
      (interpreter.attempt rule).ending.GivesUpAt rule.toList rest := by
  show (interpreter.reply rule (interpreter.attempt rule).ending).GivesUpAt rule rest ↔ _
  cases found : (interpreter.attempt rule).ending with
  | accepted chain head =>
      have ahead := ahead_reached found
      obtain ⟨n, isCount⟩ := Option.isSome_iff_exists.1 (Reader.countable_of_condition found)
      have judged : interpreter.reply rule (.accepted chain head) =
          .judged (chain.holds n) ⟨rule.toList, head.offset⟩ := by
        simp [reply, isCount]
      rw [judged]
      constructor
      · rintro (_ | ⟨gapBefore, connective, gapAfter, ahead_eq⟩)
        exact .connective gapBefore connective gapAfter (ahead.symm.trans ahead_eq)
      · rintro (_ | ⟨gapBefore, connective, gapAfter, ahead_eq⟩)
        exact .connective gapBefore connective gapAfter (ahead.trans ahead_eq)
  | refused =>
      have unread : interpreter.reply rule .refused = .unread := by
        unfold reply
        cases interpreter.operand.count <;> rfl
      rw [unread]
      constructor <;> rintro ⟨⟩ <;> exact .start
  | tooDeep => exact absurd found unstopped

/-- The attempt leaves the fault at the text where the reading gave up. -/
theorem fault_attempt_iff (unstopped : (interpreter.attempt rule).ending ≠ .tooDeep) :
    (interpreter.attempt rule).fault = some fault ↔
      ∃ rest, (interpreter.read rule).1.reply.GivesUpAt rule rest ∧
        FaultyStart interpreter.operand.count.isSome rest fault := by
  simp only [givesUpAt_reply_iff unstopped]
  exact Reader.fault_iff_givesUpAt unstopped

/-- A reading that reaches the end of the rule does not give up anywhere. -/
theorem not_givesUpAt_of_atEnd {truth : Bool} {reached : Place}
    (judged : (interpreter.read rule).1.reply = .judged truth reached)
    (atEnd : reached.atEnd = true) :
    ¬ (interpreter.read rule).1.reply.GivesUpAt rule rest := by
  rw [judged]
  rintro (_ | ⟨gapBefore, connective, gapAfter, ahead_eq⟩)
  rw [(Place.atEnd_iff_ahead_eq_nil (inside_of_judged judged).2).1 atEnd] at ahead_eq
  exact gapBefore.nonempty (List.append_eq_nil_iff.1 ahead_eq.symm).1

end Interpreter

end PluralForms
