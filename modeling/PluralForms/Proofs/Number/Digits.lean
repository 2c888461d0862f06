/-
# The digits of a number

A number is shown by its digits, highest first.  They are a numeral with this value, and the
first one is zero for zero only.
-/

import PluralForms.Number.Numeral

namespace PluralForms.Number

variable {n m : Nat} {c : Char}

/-- The digits that a number is shown by. -/
def digits (n : Nat) : List Char :=
  (toString n).toList

theorem digits_eq (n : Nat) : digits n = Nat.toDigits 10 n :=
  Nat.toList_repr

theorem isDigit_of_mem_digits (mem : c ∈ digits n) : c.isDigit = true := by
  rw [digits_eq] at mem
  exact Nat.isDigit_of_mem_toDigits (by decide) (by decide) mem

theorem le_of_isDigit (isDigit : c.isDigit = true) : 48 ≤ c.toNat := by
  simp only [Char.isDigit, Bool.and_eq_true, decide_eq_true_eq] at isDigit
  exact UInt32.le_iff_toNat_le.1 isDigit.1

/-- Digits are a numeral with the value that they show. -/
theorem numeralValue_digits (n : Nat) : numeralValue (digits n) = n := by
  rw [digits_eq]
  exact Nat.ofDigitChars_toDigits (by decide) (by decide)

theorem digits_injective (same : digits n = digits m) : n = m := by
  rw [← numeralValue_digits n, same, numeralValue_digits]

end PluralForms.Number
