/-
# Operands with the same truncation

Judging sees nothing of a finite operand but its count.  The count is the value of
the operand without its fraction, exactly; so an operand of any type may be replaced
by that integer, or by any other operand that is truncated to it, and every rule gives
the same truth, the same verdict and the same alarm.
-/

import PluralForms.Proofs.Judgement.Count
import PluralForms.Proofs.Number.Truncation

namespace PluralForms

open Number Rule

namespace Interpreter

variable {first second : Interpreter}

/-- Interpreters in the same state give the same reply if they have the same count. -/
theorem Alike.reply_eq (alike : first.Alike second)
    (sameCount : first.operand.count = second.operand.count) (rule : String) :
    (first.read rule).1.reply = (second.read rule).1.reply := by
  show first.reply rule (first.attempt rule).ending = second.reply rule (second.attempt rule).ending
  rw [alike.attempt_eq rule]
  unfold reply
  rw [sameCount, alike.gate]

end Interpreter

section SameCount

variable {operand other : Operand} {n : Int}

/-- What a rule amounts to depends on the count alone. -/
theorem assess_eq_of_count (counted : operand.count = some n) (counted' : other.count = some n)
    (rule : String) : assess rule operand = assess rule other := by
  have finite : operand.count.isSome = true := by rw [counted, Option.isSome_some]
  have finite' : other.count.isSome = true := by rw [counted', Option.isSome_some]
  have alike := Interpreter.alike_new finite finite' .standard Gate.standardLimit
  have sameReply := alike.reply_eq (counted.trans counted'.symm) rule
  have sameCause := (alike.read rule).2.cause?_eq
  rw [assess_eq, assess_eq, sameReply, sameCause]

/-- Both manners of judging take operands with the same count for the same. -/
theorem judge_and_insist_eq_of_count (counted : operand.count = some n)
    (counted' : other.count = some n) (rule : Given String) :
    judge rule (.usable operand) = judge rule (.usable other) ∧
      insist rule (.usable operand) = insist rule (.usable other) := by
  cases rule with
  | foreign typeName => exact ⟨rfl, rfl⟩
  | usable text => exact judge_and_insist_congr (assess_eq_of_count counted counted' text)

end SameCount

/-- An operand has a value exactly if it has a count, and the count is the one integer next
to the value on the side of zero.  For every rule the operand is judged as that integer is,
and as every other operand is whose value has the same truncation. -/
theorem judged_as_truncation (operand : Operand) :
    (operand.value = none ↔ operand.count = none) ∧
    ∀ q : ℚ, operand.value = some q →
      ∃ t : ℤ, operand.count = some t ∧ IsTruncation q t ∧
        (∀ whole, IsTruncation q whole → whole = t) ∧
        (∀ rule : Given String,
          judge rule (.usable operand) = judge rule (.usable (.integer t)) ∧
            insist rule (.usable operand) = insist rule (.usable (.integer t))) ∧
        ∀ (other : Operand) (q' : ℚ), other.value = some q' → IsTruncation q' t →
          ∀ rule : Given String,
            judge rule (.usable operand) = judge rule (.usable other) ∧
              insist rule (.usable operand) = insist rule (.usable other) := by
  refine ⟨Operand.value_eq_none_iff, fun q isValue => ?_⟩
  obtain ⟨t, counted, truncation⟩ := Operand.exists_count_of_value isValue
  refine ⟨t, counted, truncation, fun whole truncation' => truncation'.unique truncation, ?_, ?_⟩
  · exact judge_and_insist_eq_of_count counted rfl
  · intro other q' isValue' sameTruncation
    obtain ⟨t', counted', truncation'⟩ := Operand.exists_count_of_value isValue'
    rw [truncation'.unique sameTruncation] at counted'
    exact judge_and_insist_eq_of_count counted counted'

/-- A decimal that no double precision number separates from minus three is judged as minus
two, and as the double precision number minus two and a half is. -/
theorem judged_as_truncation_close_to_integer :
    let operand := Operand.decimal (.finite true 29999999999999999999 (-19))
    let q := scaled true 10 29999999999999999999 (-19)
    let half := Operand.binary (.finite true 5 (-1))
    let rule := Given.usable "n mod 10 is 2"
    operand.value = some q ∧ operand.count = some (-2) ∧ IsTruncation q (-2) ∧
      judge rule (.usable operand) = judge rule (.usable (.integer (-2))) ∧
      half.value = some (scaled true 2 5 (-1)) ∧ IsTruncation (scaled true 2 5 (-1)) (-2) ∧
      insist rule (.usable operand) = insist rule (.usable half) := by
  intro operand q half rule
  obtain ⟨t, counted, truncation, -, asInteger, asOther⟩ := (judged_as_truncation operand).2 q rfl
  obtain ⟨t', counted', truncation', -⟩ := (judged_as_truncation half).2 _ rfl
  have isTwo : operand.count = some (-2) := by decide +kernel
  have isTwo' : half.count = some (-2) := by decide +kernel
  obtain rfl : (-2 : ℤ) = t := Option.some.inj (isTwo.symm.trans counted)
  obtain rfl : (-2 : ℤ) = t' := Option.some.inj (isTwo'.symm.trans counted')
  exact ⟨rfl, isTwo, truncation, (asInteger rule).1, rfl, truncation',
    (asOther half _ rfl truncation' rule).2⟩

/-- The double precision number next to three on the side of zero is two; negative zero is
zero. -/
example :
    (Operand.binary (.finite false 6755399441055743 (-51))).count = some 2 ∧
      (Operand.binary (.finite true 0 (-1074))).count = some 0 := by
  decide +kernel

end PluralForms
