/-
# The verdict on a rule

For an operand with a count, a rule holds or fails exactly when all of it spells
a permitted chain of at most a hundred relations, and then as the chain is true
or false of the count.  Whatever else a rule may be, its verdict is
indeterminate.
-/

import PluralForms.Proofs.Judgement.Assessment
import PluralForms.Proofs.Spelling.Meaning

namespace PluralForms

open Rule Text

theorem assessReading_definite_iff {rule : String} {fault : Option Cause} {reply : Reply}
    {truth : Bool} :
    assessReading rule fault reply = .ok (.definite truth) ↔
      ∃ reached, reply = .judged truth reached ∧ reached.atEnd = true := by
  rw [assessReading_ok_iff]
  constructor
  · rintro (atEnd | _)
    exact ⟨_, rfl, atEnd⟩
  · rintro ⟨reached, rfl, atEnd⟩
    exact .definite atEnd

/-- The text spells this chain, which is permitted and not longer than the
usual limit on nesting allows. -/
structure IsJudgeable (chain : Condition) (text : List Char) : Prop where
  spelled : chain.SpelledBy text
  permitted : chain.Permitted
  length_le : chain.relations.length ≤ 100

/-- No text is judged in two ways. -/
theorem IsJudgeable.unique {chain other : Condition} {text : List Char}
    (judgeable : IsJudgeable chain text) (judgeable' : IsJudgeable other text) : chain = other :=
  judgeable.spelled.unique judgeable.permitted judgeable'.spelled judgeable'.permitted

section Finite

variable {rule : String} {operand : Operand} {n : Int}

/-- A rule is definite exactly when all of it spells a chain that can be judged. -/
theorem assess_definite_iff (finite : operand.count = some n) {truth : Bool} :
    assess rule operand = .ok (.definite truth) ↔
      ∃ chain, IsJudgeable chain rule.toList ∧ chain.holds n = truth := by
  rw [assess_eq, assessReading_definite_iff]
  constructor
  · rintro ⟨reached, judged, atEnd⟩
    obtain ⟨n', chain, finite', spelled, permitted, short, holds⟩ :=
      Interpreter.spelled_of_atEnd judged atEnd
    have sameCount : n' = n := Option.some.inj (finite'.symm.trans finite)
    exact ⟨chain, ⟨spelled, permitted, short⟩, sameCount ▸ holds⟩
  · rintro ⟨chain, ⟨spelled, permitted, short⟩, rfl⟩
    exact ⟨_, Interpreter.judged_of_spelled finite spelled permitted short,
      decide_eq_true (Int.le_refl _)⟩

/-- The verdict on a rule is the truth of the one chain that all of it spells,
and indeterminate if there is no such chain. -/
theorem judge_eq_iff_spelled (finite : operand.count = some n) :
    (judge (.usable rule) (.usable operand) = .ok .holds ↔
      ∃ chain, IsJudgeable chain rule.toList ∧ chain.IsTrue n) ∧
    (judge (.usable rule) (.usable operand) = .ok .fails ↔
      ∃ chain, IsJudgeable chain rule.toList ∧ ¬ chain.IsTrue n) ∧
    (judge (.usable rule) (.usable operand) = .ok .indeterminate ↔
      ¬ ∃ chain, IsJudgeable chain rule.toList) ∧
    ∀ chain other, IsJudgeable chain rule.toList → IsJudgeable other rule.toList →
      chain = other := by
  refine ⟨?_, ?_, ?_, fun _ _ => IsJudgeable.unique⟩
  · apply (judge_ofOption_iff true).trans
    apply (assess_definite_iff finite).trans
    apply exists_congr
    intro chain
    apply and_congr_right
    intro judgeable
    exact Condition.holds_iff judgeable.permitted
  · apply (judge_ofOption_iff false).trans
    apply (assess_definite_iff finite).trans
    apply exists_congr
    intro chain
    apply and_congr_right
    intro judgeable
    rw [← Condition.holds_iff judgeable.permitted, Bool.not_eq_true]
  · rw [judge_indeterminate_iff]
    constructor
    · rintro noTruth ⟨chain, judgeable⟩
      exact noTruth _ ((assess_definite_iff finite).2 ⟨chain, judgeable, rfl⟩)
    · rintro noChain truth assessed
      obtain ⟨chain, judgeable, -⟩ := (assess_definite_iff finite).1 assessed
      exact noChain ⟨chain, judgeable⟩

/-- A rule that holds of twenty-one has a chain that is true of it. -/
theorem exists_isTrue_of_holds :
    (Operand.integer 21).count = some 21 ∧
      ∃ chain, IsJudgeable chain "n mod 10 is 1 and n is not 11".toList ∧ chain.IsTrue 21 :=
  ⟨rfl, (judge_eq_iff_spelled rfl).1.1
    (rfl : judge (.usable "n mod 10 is 1 and n is not 11") (.usable (.integer 21)) = .ok .holds)⟩

end Finite

end PluralForms
