/-
# The number that an operand stands for

An integer, a double precision number and a decimal each denote one rational number,
or none if they are infinite or not a number.  Truncating gives the integer next to
that number on the side of zero.  There is only one such integer, so it does not
matter how the number is represented: the whole part of a scaled significand is the
floor of its exact value, and no power is ever rounded.
-/

import Mathlib.Algebra.Order.Floor.Semifield
import Mathlib.Data.Rat.Floor
import PluralForms.Operand

namespace PluralForms

namespace Number

/-- The integer is the number without its fraction: it is as far from zero as the
number or less than one nearer, and it does not lie on the other side. -/
structure IsTruncation (value : ℚ) (whole : ℤ) : Prop where
  abs_le : |(whole : ℚ)| ≤ |value|
  lt_abs_add_one : |value| < |(whole : ℚ)| + 1
  sameSide : 0 ≤ whole * value

namespace IsTruncation

variable {value : ℚ} {whole other : ℤ}

/-- The distance from zero is rounded down. -/
theorem floor_abs (truncation : IsTruncation value whole) : ⌊|value|⌋ = |whole| := by
  rw [Int.floor_eq_iff, Int.cast_abs]
  exact ⟨truncation.abs_le, truncation.lt_abs_add_one⟩

/-- A number has one integer next to it on the side of zero. -/
theorem unique (truncation : IsTruncation value whole) (truncation' : IsTruncation value other) :
    whole = other := by
  have sameDistance : |whole| = |other| := truncation.floor_abs.symm.trans truncation'.floor_abs
  rcases abs_eq_abs.1 sameDistance with same | opposite
  · exact same
  -- Opposite integers are both on the side of the number only if that is zero.
  have side := truncation.sameSide
  have side' := truncation'.sameSide
  rw [opposite, Int.cast_neg, neg_mul, Left.nonneg_neg_iff] at side
  rcases mul_eq_zero.1 (le_antisymm side side') with isZero | isZero
  · rw [opposite, Int.cast_eq_zero.1 isZero, neg_zero]
  · have near := truncation'.abs_le
    rw [isZero, abs_zero, abs_nonpos_iff, Int.cast_eq_zero] at near
    rw [opposite, near, neg_zero]

theorem of_intCast (whole : ℤ) : IsTruncation whole whole :=
  ⟨le_refl _, lt_add_one _, mul_self_nonneg _⟩

/-- The floor of a magnitude, with its sign. -/
theorem of_floor (negative : Bool) {magnitude : ℚ} (nonneg : 0 ≤ magnitude) :
    IsTruncation (if negative then -magnitude else magnitude)
      (signed negative ⌊magnitude⌋₊) := by
  have distance : |if negative then -magnitude else magnitude| = magnitude := by
    cases negative <;> simp [abs_of_nonneg nonneg]
  have distance' : |((signed negative ⌊magnitude⌋₊ : ℤ) : ℚ)| = ⌊magnitude⌋₊ := by
    cases negative <;> simp [signed]
  have side : 0 ≤ (⌊magnitude⌋₊ : ℚ) * magnitude := mul_nonneg (Nat.cast_nonneg _) nonneg
  refine ⟨?_, ?_, ?_⟩
  · rw [distance, distance']
    exact Nat.floor_le nonneg
  · rw [distance, distance']
    exact Nat.lt_floor_add_one magnitude
  · cases negative <;> simpa [signed] using side

end IsTruncation

/-- The whole part of a scaled number is the floor of its exact value. -/
theorem wholePart_eq_floor {base : ℕ} (two_le : 2 ≤ base) (significand : ℕ) (exponent : ℤ) :
    wholePart base significand exponent = ⌊(significand : ℚ) * (base : ℚ) ^ exponent⌋₊ := by
  obtain ⟨power, rfl | rfl⟩ := exponent.eq_nat_or_neg
  · rw [wholePart_natCast, zpow_natCast, ← Nat.cast_pow, ← Nat.cast_mul, Nat.floor_natCast]
    rfl
  · rw [wholePart_neg two_le, zpow_neg, zpow_natCast, ← div_eq_mul_inv, ← Nat.cast_pow,
      Nat.floor_div_eq_div]
    rfl

/-- The number `significand * base ^ exponent` with a sign. -/
def scaled (negative : Bool) (base significand : ℕ) (exponent : ℤ) : ℚ :=
  if negative then -((significand : ℚ) * (base : ℚ) ^ exponent)
  else (significand : ℚ) * (base : ℚ) ^ exponent

/-- Whole parts of scaled numbers are exact, however long the significand and however
large or small the exponent. -/
theorem isTruncation_wholePart {base : ℕ} (two_le : 2 ≤ base) (negative : Bool)
    (significand : ℕ) (exponent : ℤ) :
    IsTruncation (scaled negative base significand exponent)
      (signed negative (wholePart base significand exponent)) := by
  rw [wholePart_eq_floor two_le]
  exact .of_floor negative (mul_nonneg (Nat.cast_nonneg _) (zpow_nonneg (Nat.cast_nonneg _) _))

/-- The exact value of a decimal, if it is finite. -/
def Decimal.value : Decimal → Option ℚ
  | finite negative coefficient exponent => some (scaled negative 10 coefficient exponent)
  | infinite _ => none
  | notANumber _ _ _ => none

/-- The exact value of a double precision number, if it is finite. -/
def Binary64.value : Binary64 → Option ℚ
  | finite negative significand exponent => some (scaled negative 2 significand exponent)
  | infinite _ => none
  | notANumber => none

end Number

namespace Operand

open Number

/-- The exact value of an operand, if it is finite. -/
def value : Operand → Option ℚ
  | integer value => some value
  | binary value => value.value
  | decimal value => value.value

/-- The count of an operand is its value without the fraction. -/
theorem exists_count_of_value {operand : Operand} {q : ℚ} (isValue : operand.value = some q) :
    ∃ n, operand.count = some n ∧ IsTruncation q n := by
  cases operand with
  | integer whole =>
      cases isValue
      exact ⟨whole, rfl, .of_intCast whole⟩
  | binary value =>
      cases value with
      | finite negative significand exponent =>
          cases isValue
          exact ⟨_, rfl, isTruncation_wholePart (by decide) negative significand exponent⟩
      | infinite negative => cases isValue
      | notANumber => cases isValue
  | decimal value =>
      cases value with
      | finite negative coefficient exponent =>
          cases isValue
          exact ⟨_, rfl, isTruncation_wholePart (by decide) negative coefficient exponent⟩
      | infinite negative => cases isValue
      | notANumber negative signalling payload => cases isValue

/-- The operands without a value are those without a count. -/
theorem value_eq_none_iff {operand : Operand} : operand.value = none ↔ operand.count = none := by
  constructor
  · intro noValue
    cases operand with
    | integer whole => cases noValue
    | binary value =>
        cases value with
        | finite negative significand exponent => cases noValue
        | infinite negative => rfl
        | notANumber => rfl
    | decimal value =>
        cases value with
        | finite negative coefficient exponent => cases noValue
        | infinite negative => rfl
        | notANumber negative signalling payload => rfl
  · intro uncounted
    cases isValue : operand.value with
    | none => rfl
    | some q =>
        obtain ⟨n, counted, -⟩ := exists_count_of_value isValue
        rw [uncounted] at counted
        cases counted

end Operand

end PluralForms
