/-
# Rules repeat themselves

A remainder depends only on where the count lies between two multiples of the divisor.
A count that is not divided enters a relation only by comparison with the numbers that
are written there, and beyond the greatest of them nothing changes any more.  So the
verdict on a rule repeats itself from some count on, with every common multiple of the
divisors as its period; and from zero on if every relation is about a remainder.

It follows that a rule is known for all counts as soon as it is known for the counts up
to the bound and for one period more.  No numeral denotes more than sixty-four digits can
write, so there is one bound for all rules.
-/

import Mathlib.Algebra.BigOperators.Group.List.Lemmas
import Mathlib.Algebra.Order.BigOperators.GroupWithZero.List
import Mathlib.Algebra.Order.Ring.Nat
import PluralForms.Proofs.Judgement.Count
import PluralForms.Proofs.Judgement.Verdict

namespace PluralForms

open Rule Number

/-- From the start on, the values repeat themselves with this period. -/
def PeriodicFrom {α : Type} (f : Int → α) (period start : Int) : Prop :=
  ∀ n, start ≤ n → f (n + period) = f n

namespace PeriodicFrom

variable {α : Type} {f : Int → α} {period start : Int}

theorem add_mul (periodic : PeriodicFrom f period start) (nonneg : 0 ≤ period) {n : Int}
    (behind : start ≤ n) (times : Nat) : f (n + times * period) = f n := by
  induction times with
  | zero => simp
  | succ times ih =>
      have further : start ≤ n + times * period :=
        behind.trans (Int.le_add_of_nonneg_right (Int.mul_nonneg (Int.natCast_nonneg _) nonneg))
      rw [Int.natCast_succ, Int.add_mul, Int.one_mul, ← Int.add_assoc, periodic _ further, ih]

/-- Every value is found before the end of the first period. -/
theorem exists_in_window (periodic : PeriodicFrom f period start) (pos : 0 < period)
    (nonneg : 0 ≤ start) {n : Int} (counts : 0 ≤ n) :
    ∃ m, 0 ≤ m ∧ m < start + period ∧ f n = f m := by
  by_cases early : n < start
  · exact ⟨n, counts, by omega, rfl⟩
  · have rest_nonneg := Int.emod_nonneg (n - start) (Int.ne_of_gt pos)
    have rest_lt := Int.emod_lt_of_pos (n - start) pos
    have times_nonneg : 0 ≤ (n - start) / period :=
      Int.ediv_nonneg (by omega) (Int.le_of_lt pos)
    refine ⟨start + (n - start) % period, by omega, by omega, ?_⟩
    have whole : start + (n - start) % period + ((n - start) / period).toNat * period = n := by
      rw [Int.toNat_of_nonneg times_nonneg, Int.mul_comm, Int.add_assoc, Int.emod_add_mul_ediv]
      omega
    have within : start ≤ start + (n - start) % period := by omega
    have same := periodic.add_mul (Int.le_of_lt pos) within ((n - start) / period).toNat
    rwa [whole] at same

end PeriodicFrom

namespace Rule

/-- The expression that a relation is about. -/
def Relation.subject : Relation → Expression
  | equality subject _ _ => subject
  | membership subject _ _ => subject
  | within subject _ => subject

/-- The numbers that a relation compares its expression with. -/
def Relation.numbers : Relation → List Nat
  | equality _ _ value => [value]
  | membership _ _ interval => [interval.first, interval.last]
  | within _ interval => [interval.first, interval.last]

/-- Every divisor in the chain divides the period. -/
def Condition.Divides (chain : Condition) (period : Int) : Prop :=
  ∀ only ∈ chain.relations, ∀ divisor : Nat, only.subject = .remainder divisor →
    (divisor : Int) ∣ period

/-- Every number in the chain is less than the bound. -/
def Condition.Below (chain : Condition) (bound : Int) : Prop :=
  ∀ only ∈ chain.relations, ∀ number ∈ only.numbers, (number : Int) < bound

/-- Every relation in the chain is about a remainder. -/
def Condition.DividesAlways (chain : Condition) : Prop :=
  ∀ only ∈ chain.relations, ∃ divisor, only.subject = .remainder divisor

section Repeating

variable {only : Relation} {chain : Condition} {n m period bound : Int}

/-- A relation sees nothing of the count but the value of its expression. -/
theorem Relation.holds_congr (same : only.subject.value n = only.subject.value m) :
    only.holds n = only.holds m := by
  cases only <;> simp only [Relation.subject] at same <;> simp only [Relation.holds, same]

/-- No number beyond the last one lies in an interval. -/
theorem Interval.contains_of_beyond {interval : Interval} {x : Int}
    (beyond : (interval.last : Int) < x) : interval.contains x = false := by
  rw [contains, decide_eq_false (Int.not_le.2 beyond), Bool.and_false]

/-- Nothing tells apart two values beyond all numbers of a relation. -/
theorem Relation.holds_of_beyond
    (beyond : ∀ number ∈ only.numbers, (number : Int) < only.subject.value n)
    (beyond' : ∀ number ∈ only.numbers, (number : Int) < only.subject.value m) :
    only.holds n = only.holds m := by
  cases only with
  | equality subject denied value =>
      have differs : (subject.value n == (value : Int)) = false :=
        beq_eq_false_iff_ne.2 (Int.ne_of_gt (beyond value List.mem_cons_self))
      have differs' : (subject.value m == (value : Int)) = false :=
        beq_eq_false_iff_ne.2 (Int.ne_of_gt (beyond' value List.mem_cons_self))
      simp only [Relation.holds, differs, differs']
  | membership subject denied interval =>
      have outside : interval.contains (subject.value n) = false :=
        Interval.contains_of_beyond (beyond interval.last (by simp [Relation.numbers]))
      have outside' : interval.contains (subject.value m) = false :=
        Interval.contains_of_beyond (beyond' interval.last (by simp [Relation.numbers]))
      simp only [Relation.holds, outside, outside']
  | within subject interval =>
      have outside : interval.contains (subject.value n) = false :=
        Interval.contains_of_beyond (beyond interval.last (by simp [Relation.numbers]))
      have outside' : interval.contains (subject.value m) = false :=
        Interval.contains_of_beyond (beyond' interval.last (by simp [Relation.numbers]))
      simp only [Relation.holds, outside, outside']

/-- A chain holds alike of counts of which its relations do. -/
theorem Condition.holds_congr
    (same : ∀ only ∈ chain.relations, only.holds n = only.holds m) :
    chain.holds n = chain.holds m := by
  induction chain with
  | relation only => exact same only (List.mem_singleton_self _)
  | joined first connective rest ih =>
      have sameFirst := same first List.mem_cons_self
      have sameRest := ih fun only inRest => same only (List.mem_cons_of_mem _ inRest)
      simp only [Condition.holds, sameFirst, sameRest]

/-- A remainder is not changed by a multiple of the divisor. -/
theorem Expression.value_add_period {divisor : Nat} (multiple : (divisor : Int) ∣ period)
    (nonneg : 0 ≤ period) (counts : 0 ≤ n) :
    (Expression.remainder divisor).value (n + period) = (Expression.remainder divisor).value n := by
  obtain ⟨times, rfl⟩ := multiple
  simp only [Expression.value]
  rw [Int.tmod_eq_emod_of_nonneg counts, Int.tmod_eq_emod_of_nonneg (Int.add_nonneg counts nonneg),
    Int.add_mul_emod_self_left]

/-- A bound for the numbers of a chain is beyond zero, since every relation has a number. -/
theorem Condition.Below.pos (below : chain.Below bound) : 0 < bound := by
  obtain ⟨only, inChain⟩ := List.exists_mem_of_length_pos chain.length_relations_pos
  obtain ⟨number, written⟩ : ∃ number, number ∈ only.numbers := by
    cases only <;> exact ⟨_, List.mem_cons_self⟩
  have less := below only inChain number written
  omega

/-- A chain about remainders alone repeats itself from zero on. -/
theorem Condition.periodicFrom_zero (divides : chain.Divides period) (nonneg : 0 ≤ period)
    (always : chain.DividesAlways) : PeriodicFrom (fun n => chain.holds n) period 0 := by
  intro n counts
  apply Condition.holds_congr
  intro only inChain
  obtain ⟨divisor, isRemainder⟩ := always only inChain
  apply Relation.holds_congr
  rw [isRemainder]
  exact Expression.value_add_period (divides only inChain divisor isRemainder) nonneg counts

/-- Every chain repeats itself from a bound for its numbers on. -/
theorem Condition.periodicFrom (divides : chain.Divides period) (nonneg : 0 ≤ period)
    (below : chain.Below bound) : PeriodicFrom (fun n => chain.holds n) period bound := by
  intro n behind
  apply Condition.holds_congr
  intro only inChain
  cases isSubject : only.subject with
  | count =>
      have beyond (number : Nat) (written : number ∈ only.numbers) : (number : Int) < n :=
        (below only inChain number written).trans_le behind
      apply Relation.holds_of_beyond <;> rw [isSubject]
      · exact fun number written =>
          (beyond number written).trans_le (Int.le_add_of_nonneg_right nonneg)
      · exact beyond
  | remainder divisor =>
      apply Relation.holds_congr
      rw [isSubject]
      have counts : 0 ≤ n := below.pos.le.trans behind
      exact Expression.value_add_period (divides only inChain divisor isSubject) nonneg counts

end Repeating

section CommonMultiple

/-- The divisor of an expression; the count itself counts as divided by one. -/
def Expression.divisor : Expression → Nat
  | count => 1
  | remainder divisor => divisor

/-- The product of the divisors of a permitted chain is a common multiple of them. -/
theorem Condition.exists_divides {chain : Condition} (permitted : chain.Permitted) :
    ∃ period : Int, 0 < period ∧ chain.Divides period := by
  let divisors := chain.relations.map (·.subject.divisor)
  have divisor_pos : ∀ divisor ∈ divisors, 0 < divisor := by
    intro divisor isDivisor
    obtain ⟨only, inChain, rfl⟩ := List.mem_map.1 isDivisor
    have allowed : only.subject.Permitted := by
      cases only with
      | equality => exact permitted _ inChain
      | membership => exact (permitted _ inChain).1
      | within => exact (permitted _ inChain).1
    cases isSubject : only.subject with
    | count => exact Nat.one_pos
    | remainder divisor =>
        rw [isSubject] at allowed
        exact Nat.pos_of_ne_zero allowed
  refine ⟨divisors.prod, Int.natCast_pos.2 (List.prod_pos divisor_pos), ?_⟩
  intro only inChain divisor isRemainder
  apply Int.natCast_dvd_natCast.2
  apply List.dvd_prod
  exact List.mem_map.2 ⟨only, inChain, by rw [isRemainder]; rfl⟩

end CommonMultiple

section Numerals

/-- A digit is worth nine at most. -/
theorem toNat_sub_le_nine {c : Char} (digit : c.isDigit = true) : c.toNat - '0'.toNat ≤ 9 := by
  have upper : c.val.toNat ≤ 57 := by
    simp only [Char.isDigit, Bool.and_eq_true, decide_eq_true_eq] at digit
    exact UInt32.le_iff_toNat_le.1 digit.2
  have isNat : c.toNat = c.val.toNat := rfl
  have zero : '0'.toNat = 48 := rfl
  omega

/-- A numeral is less than the power of ten that has one digit more. -/
theorem numeralValue_lt {digits : List Char} (digit : ∀ c ∈ digits, c.isDigit = true) :
    numeralValue digits < 10 ^ digits.length := by
  suffices grows : ∀ value, digits.foldl
      (fun value digit => 10 * value + (digit.toNat - '0'.toNat)) value <
        (value + 1) * 10 ^ digits.length by
    simpa [numeralValue] using grows 0
  induction digits with
  | nil => simp
  | cons c digits ih =>
      intro value
      have small := toNat_sub_le_nine (digit c List.mem_cons_self)
      have rest := ih (fun d inDigits => digit d (List.mem_cons_of_mem _ inDigits))
        (10 * value + (c.toNat - '0'.toNat))
      calc _ < (10 * value + (c.toNat - '0'.toNat) + 1) * 10 ^ digits.length := rest
        _ ≤ (value + 1) * 10 * 10 ^ digits.length := Nat.mul_le_mul_right _ (by omega)
        _ = (value + 1) * 10 ^ (c :: digits).length := by
          rw [List.length_cons, Nat.pow_succ', Nat.mul_assoc]

theorem IsNumeral.value_lt {value : Nat} {digits : List Char} (numeral : IsNumeral value digits) :
    value < 10 ^ 64 := by
  rw [← numeral.value_eq]
  exact (numeralValue_lt numeral.digit).trans_le
    (Nat.pow_le_pow_right (by decide) numeral.length_le)

theorem Interval.SpelledBy.bounds_lt {interval : Interval} {text : List Char}
    (spelled : interval.SpelledBy text) :
    ∀ number ∈ [interval.first, interval.last], number < 10 ^ 64 := by
  cases spelled with
  | bounds firstNumeral lastNumeral =>
      exact List.forall_mem_cons.2
        ⟨firstNumeral.value_lt, List.forall_mem_singleton.2 lastNumeral.value_lt⟩

theorem Relation.SpelledBy.numbers_lt {only : Relation} {text : List Char}
    (spelled : only.SpelledBy text) : ∀ number ∈ only.numbers, number < 10 ^ 64 := by
  cases spelled with
  | equality _ _ _ _ numeral => exact List.forall_mem_singleton.2 numeral.value_lt
  | membership _ _ _ _ intervalSpelled => exact intervalSpelled.bounds_lt
  | within _ _ _ intervalSpelled => exact intervalSpelled.bounds_lt

/-- One bound is good for all rules. -/
theorem Condition.below_of_spelled {chain : Condition} {text : List Char}
    (spelled : chain.SpelledBy text) : chain.Below (10 ^ 64) := by
  induction spelled with
  | relation spelled =>
      rintro only inChain number written
      obtain rfl := List.mem_singleton.1 inChain
      exact_mod_cast spelled.numbers_lt number written
  | joined firstSpelled _ _ _ ih =>
      rintro only inChain number written
      rcases List.mem_cons.1 inChain with rfl | inRest
      · exact_mod_cast firstSpelled.numbers_lt number written
      · exact ih only inRest number written

end Numerals

end Rule

/-- The verdict on a rule for an integer. -/
def verdictFor (rule : String) (n : Int) : Except Failure Verdict :=
  judge (.usable rule) (.usable (.integer n))

section Verdicts

variable {rule : String} {period bound : Int}

/-- Counts of which the chain of a rule holds alike have the same verdict. -/
theorem verdictFor_congr {n m : Int}
    (same : ∀ chain, IsJudgeable chain rule.toList → chain.holds n = chain.holds m) :
    verdictFor rule n = verdictFor rule m := by
  have sameAssessment : assess rule (.integer n) = assess rule (.integer m) := by
    have counts (k : Int) : (Operand.integer k).count.isSome = true := rfl
    obtain ⟨truth, truth', definite, definite'⟩ | sameCause :=
      assess_of_finite rule (counts n) (counts m)
    · obtain ⟨chain, judgeable, rfl⟩ := (assess_definite_iff rfl).1 definite
      obtain ⟨chain', judgeable', rfl⟩ := (assess_definite_iff rfl).1 definite'
      obtain rfl := judgeable.unique judgeable'
      rw [definite, definite', same chain judgeable]
    · exact sameCause
  exact (judge_and_insist_congr sameAssessment).1

/-- The verdict repeats itself wherever the chain of the rule does. -/
theorem periodicFrom_verdictFor
    (periodic : ∀ chain, IsJudgeable chain rule.toList →
      PeriodicFrom (fun n => chain.holds n) period bound) :
    PeriodicFrom (verdictFor rule) period bound :=
  fun n behind => verdictFor_congr fun chain judgeable => periodic chain judgeable n behind

/-- A common multiple of the divisors and a bound for the numbers of a rule are a period of its
verdicts and where they start to repeat themselves.  If every relation is about a remainder they
repeat themselves from zero on.  There is always a common multiple, and always the same bound.
What a rule is for any count it is for one before the end of the first period. -/
theorem verdict_periodic (rule : String) :
    let OfChain (property : Condition → Prop) : Prop :=
      ∀ chain, IsJudgeable chain rule.toList → property chain
    (∃ period : Int, 0 < period ∧ OfChain (·.Divides period)) ∧
    OfChain (·.Below (10 ^ 64)) ∧
    ∀ period : Int, 0 < period → OfChain (·.Divides period) →
      (∀ bound : Int, OfChain (·.Below bound) →
        PeriodicFrom (verdictFor rule) period bound ∧
        (0 < bound + period →
          ∀ n, 0 ≤ n → ∃ m, 0 ≤ m ∧ m < bound + period ∧
            verdictFor rule n = verdictFor rule m)) ∧
      (OfChain Condition.DividesAlways → PeriodicFrom (verdictFor rule) period 0) := by
  intro OfChain
  refine ⟨?_, fun chain judgeable => Condition.below_of_spelled judgeable.spelled, ?_⟩
  · by_cases judged : ∃ chain, IsJudgeable chain rule.toList
    · obtain ⟨chain, judgeable⟩ := judged
      obtain ⟨period, pos, divides⟩ := Condition.exists_divides judgeable.permitted
      exact ⟨period, pos, fun other judgeable' => judgeable.unique judgeable' ▸ divides⟩
    · exact ⟨1, Int.one_pos, fun chain judgeable => absurd ⟨chain, judgeable⟩ judged⟩
  intro period pos divides
  refine ⟨fun bound below => ?_, fun always => ?_⟩
  · have periodic : PeriodicFrom (verdictFor rule) period bound :=
      periodicFrom_verdictFor fun chain judgeable =>
        Condition.periodicFrom (divides chain judgeable) pos.le (below chain judgeable)
    refine ⟨periodic, fun notEmpty n counts => ?_⟩
    by_cases nonneg : 0 ≤ bound
    · exact periodic.exists_in_window pos nonneg counts
    · -- No chain has its numbers below such a bound, so the verdict is always the same.
      refine ⟨0, Int.le_refl 0, notEmpty, verdictFor_congr fun chain judgeable => ?_⟩
      exact absurd (below chain judgeable).pos.le nonneg
  · exact periodicFrom_verdictFor fun chain judgeable =>
      Condition.periodicFrom_zero (divides chain judgeable) pos.le (always chain judgeable)

/-- The verdicts on a rule for ordinals repeat themselves every hundred counts, from zero on
since no relation is about the count itself. -/
theorem verdict_periodic_of_ordinals :
    let rule := "n mod 10 is 1 and n mod 100 is not 11"
    let chain : Condition := .joined (.equality (.remainder 10) false 1) .both
      (.relation (.equality (.remainder 100) true 11))
    IsJudgeable chain rule.toList ∧ chain.Divides 100 ∧ chain.Below 12 ∧ chain.DividesAlways ∧
      PeriodicFrom (verdictFor rule) 100 12 ∧
      (∃ m, 0 ≤ m ∧ m < 112 ∧ verdictFor rule 1011 = verdictFor rule m) ∧
      PeriodicFrom (verdictFor rule) 100 0 := by
  intro rule chain
  have gap : IsGap [' '] := .singleton rfl
  have one : IsNumeral 1 ['1'] := .singleton rfl rfl
  have ten : IsNumeral 10 ['1', '0'] := ⟨by decide, by decide, List.all_eq_true.1 rfl, rfl⟩
  have eleven : IsNumeral 11 ['1', '1'] := ⟨by decide, by decide, List.all_eq_true.1 rfl, rfl⟩
  have hundred : IsNumeral 100 ['1', '0', '0'] := ⟨by decide, by decide, List.all_eq_true.1 rfl, rfl⟩
  have judgeable : IsJudgeable chain rule.toList := by
    refine ⟨?_, ?_, by decide⟩
    · unfold chain rule
      exact .joined (.equality (.remainder gap gap ten) gap .absent gap one) gap gap
        (.relation (.equality (.remainder gap gap hundred) gap (.present gap) gap eleven))
    · simp [chain, Condition.Permitted, Condition.relations, Relation.Permitted,
        Expression.Permitted]
  have divides : chain.Divides 100 := by
    simp [chain, Condition.Divides, Condition.relations, Relation.subject]
  have below : chain.Below 12 := by
    simp [chain, Condition.Below, Condition.relations, Relation.numbers]
  have always : chain.DividesAlways := by
    simp [chain, Condition.DividesAlways, Condition.relations, Relation.subject]
  have onlyChain (property : Condition → Prop) (ofChain : property chain) :
      ∀ other, IsJudgeable other rule.toList → property other :=
    fun other judgeable' => judgeable.unique judgeable' ▸ ofChain
  obtain ⟨-, -, repeats⟩ := verdict_periodic rule
  obtain ⟨bounded, unbounded⟩ := repeats 100 (by decide) (onlyChain _ divides)
  obtain ⟨periodic, window⟩ := bounded 12 (onlyChain _ below)
  exact ⟨judgeable, divides, below, always, periodic, window (by decide) 1011 (by decide),
    unbounded (onlyChain _ always)⟩

end Verdicts

end PluralForms
