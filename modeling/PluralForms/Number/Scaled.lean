/-
# Whole parts of scaled numbers

Finite operands are a sign and `significand * base ^ exponent`, with base two
or ten.  Their whole part is computed exactly, and never through a power that
is larger than the result: a significand of too few digits for a negative
exponent has the whole part zero at once.
-/

namespace PluralForms.Number

/-- The whole part of `significand * base ^ exponent`. -/
def wholePart (base significand : Nat) (exponent : Int) : Nat :=
  if significand = 0 then 0
  else if 0 ≤ exponent then significand * base.pow exponent.toNat
  else if significand.log2 < (-exponent).toNat then 0
  else significand / base.pow (-exponent).toNat

/-- A magnitude with its sign; zero has none. -/
def signed (negative : Bool) (magnitude : Nat) : Int :=
  if negative then -magnitude else magnitude

/-- An exponent of at least zero multiplies. -/
theorem wholePart_natCast (base significand exponent : Nat) :
    wholePart base significand exponent = significand * base.pow exponent := by
  unfold wholePart
  split
  · simp_all
  · simp

/-- A negative exponent divides and drops the remainder. -/
theorem wholePart_neg {base : Nat} (two_le : 2 ≤ base) (significand exponent : Nat) :
    wholePart base significand (-exponent) = significand / base.pow exponent := by
  unfold wholePart
  split
  · simp_all
  rename_i nonzero
  split
  · have : exponent = 0 := by omega
    subst this
    simp
  rw [Int.neg_neg, Int.toNat_natCast]
  split
  · rename_i short
    symm
    apply Nat.div_eq_of_lt
    calc significand < Nat.pow 2 (significand.log2 + 1) := Nat.lt_log2_self
      _ ≤ Nat.pow 2 exponent := Nat.pow_le_pow_right (by decide) short
      _ ≤ base.pow exponent := Nat.pow_le_pow_left two_le exponent
  · rfl

end PluralForms.Number
