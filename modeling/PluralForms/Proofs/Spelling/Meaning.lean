/-
# What conditions mean

The meaning of a condition as a proposition about the count, given in words of
arithmetic and logic only.  Judging computes it: a permitted condition holds of
a count exactly when it is true of it.
-/

import PluralForms.Proofs.Spelling.Basic

namespace PluralForms.Rule

/-- An expression denotes a number for a count.  A remainder differs from the
count by a multiple of the divisor, is smaller than the divisor, and never has
the opposite sign of the count. -/
def Expression.Denotes (n x : Int) : Expression → Prop
  | count => x = n
  | remainder divisor =>
      (∃ quotient : Int, n = divisor * quotient + x) ∧ x.natAbs < divisor ∧
        (0 ≤ n → 0 ≤ x) ∧ (n ≤ 0 → x ≤ 0)

/-- The relation is true of a count.  An interval whose bounds cross contains
nothing. -/
def Relation.IsTrue (n : Int) : Relation → Prop
  | equality subject false value => ∃ x, subject.Denotes n x ∧ x = value
  | equality subject true value => ∃ x, subject.Denotes n x ∧ x ≠ value
  | membership subject false interval =>
      ∃ x, subject.Denotes n x ∧ interval.first ≤ x ∧ x ≤ interval.last
  | membership subject true interval =>
      ∃ x, subject.Denotes n x ∧ (x < interval.first ∨ interval.last < x)
  | within subject interval =>
      ∃ x, subject.Denotes n x ∧ interval.first ≤ x ∧ x ≤ interval.last

/-- The condition is true of a count.  What stands behind a connective is one
condition. -/
def Condition.IsTrue (n : Int) : Condition → Prop
  | relation only => only.IsTrue n
  | joined first .both rest => first.IsTrue n ∧ rest.IsTrue n
  | joined first .either rest => first.IsTrue n ∨ rest.IsTrue n

/-- A permitted expression denotes its value and nothing else. -/
theorem Expression.denotes_iff {n x : Int} {subject : Expression} (permitted : subject.Permitted) :
    subject.Denotes n x ↔ x = subject.value n := by
  cases subject with
  | count => rfl
  | remainder divisor =>
      have nonzero : (divisor : Int) ≠ 0 := by simpa [Permitted] using permitted
      constructor
      · rintro ⟨⟨quotient, same⟩, small, nonneg, nonpos⟩
        have whole : x + divisor * quotient = n := by rw [same, Int.add_comm]
        rcases Int.le_total 0 n with sign | sign
        · exact ((Int.tdiv_tmod_unique sign nonzero).2 ⟨whole, nonneg sign, by omega⟩).2.symm
        · exact ((Int.tdiv_tmod_unique' sign nonzero).2 ⟨whole, by omega, nonpos sign⟩).2.symm
      · rintro rfl
        refine ⟨⟨n.tdiv divisor, (Int.mul_tdiv_add_tmod n divisor).symm⟩, ?_, ?_, ?_⟩
        · rw [value, Int.natAbs_tmod]
          exact Nat.mod_lt _ (by omega)
        · exact Int.tmod_nonneg _
        · intro nonpos
          have opposite := Int.tmod_nonneg (divisor : Int) (Int.neg_nonneg_of_nonpos nonpos)
          rw [Int.neg_tmod] at opposite
          exact Int.nonpos_of_neg_nonneg opposite

theorem Relation.holds_iff {n : Int} {only : Relation} (permitted : only.Permitted) :
    only.holds n = true ↔ only.IsTrue n := by
  cases only with
  | equality subject denied value =>
      cases denied <;>
        simp only [holds, IsTrue, Expression.denotes_iff permitted, exists_eq_left] <;> simp
  | membership subject denied interval =>
      cases denied <;>
        simp only [holds, IsTrue, Interval.contains, Expression.denotes_iff permitted.1,
          exists_eq_left] <;> simp
  | within subject interval =>
      simp only [holds, IsTrue, Interval.contains, Expression.denotes_iff permitted.1,
        exists_eq_left]
      simp

/-- Judging a permitted condition finds out whether it is true. -/
theorem Condition.holds_iff {n : Int} {condition : Condition} (permitted : condition.Permitted) :
    condition.holds n = true ↔ condition.IsTrue n := by
  induction condition with
  | relation only =>
      exact Relation.holds_iff (permitted_relation.1 permitted)
  | joined first connective rest ih =>
      obtain ⟨firstPermitted, restPermitted⟩ := permitted_joined.1 permitted
      cases connective <;>
        simp [holds, IsTrue, Connective.join, Relation.holds_iff firstPermitted, ih restPermitted]

end PluralForms.Rule
