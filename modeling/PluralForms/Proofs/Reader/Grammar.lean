/-
# Reading two texts alike

Every construct of a rule runs in parallel with itself from heads that belong together, if
all tokens keep heads together: a construct is read by its tokens alone.  The faults on the
way are compared by any relation that relates each possible fault to itself.  With a count
that excludes the fault of having none, which is the only one that shows the operand.

In particular every construct corresponds to itself at any shift of the offset.
-/

import PluralForms.Proofs.Reader.Correspondence
import PluralForms.Rule.Reading

namespace PluralForms.Rule.Reader

variable {heads : Head → Head → Prop} {faults : Fault → Fault → Prop} {shift : Nat}
variable {countable : Bool}

/-- A fault that reading can leave, given whether there is a count. -/
def Possible (countable : Bool) (fault : Fault) : Prop :=
  countable = true → fault ≠ .noCount

section Constructs

variable (kept : KeptByTokens heads)

include kept

theorem parallel_interval (same : ∀ bounds, faults (.oversized bounds) (.oversized bounds)) :
    Parallel heads faults Eq interval interval := by
  apply Parallel.logged
  apply (parallel_numeral kept).bind_same
  intro first
  apply (parallel_word kept _).bind_same
  intro _
  apply (parallel_numeral kept).bind_same
  intro last
  dsimp only
  split
  · exact .reject (same _)
  · exact .accept rfl

theorem parallel_denial : Parallel heads faults Eq denial denial :=
  ((parallel_blanks kept).bind_same fun _ =>
    (parallel_word kept _).bind_same fun _ => .accept rfl).orElse (.accept rfl)

variable (same : ∀ fault, Possible countable fault → faults fault fault)

include same

theorem parallel_count : Parallel heads faults Eq (count countable) (count countable) := by
  apply Parallel.logged
  apply (parallel_word kept _).bind_same
  intro _
  cases countable with
  | true => exact .accept rfl
  | false => exact .reject (same .noCount nofun)

theorem parallel_remainder :
    Parallel heads faults Eq (remainder countable) (remainder countable) := by
  apply Parallel.logged
  apply (parallel_count kept same).bind_same
  intro _
  apply Parallel.spaced kept
  apply (parallel_numeral kept).bind_same
  intro divisor
  split
  · exact .reject (same .zeroDivisor nofun)
  · exact .accept rfl

theorem parallel_expression :
    Parallel heads faults Eq (expression countable) (expression countable) :=
  (parallel_remainder kept same).orElse (parallel_count kept same)

theorem parallel_equality :
    Parallel heads faults Eq (equality countable) (equality countable) := by
  apply Parallel.logged
  apply (parallel_expression kept same).bind_same
  intro subject
  apply (parallel_blanks kept).bind_same
  intro _
  apply (parallel_word kept _).bind_same
  intro _
  apply (parallel_denial kept).bind_same
  intro denied
  apply (parallel_blanks kept).bind_same
  intro _
  exact (parallel_numeral kept).bind_same fun value => .accept rfl

theorem parallel_membership :
    Parallel heads faults Eq (membership countable) (membership countable) := by
  apply Parallel.logged
  apply (parallel_expression kept same).bind_same
  intro subject
  apply (parallel_denial kept).bind_same
  intro denied
  apply Parallel.spaced kept
  exact (parallel_interval kept fun _ => same _ nofun).bind_same fun bounds => .accept rfl

theorem parallel_within :
    Parallel heads faults Eq (within countable) (within countable) := by
  apply Parallel.logged
  apply (parallel_expression kept same).bind_same
  intro subject
  apply Parallel.spaced kept
  exact (parallel_interval kept fun _ => same _ nofun).bind_same fun bounds => .accept rfl

theorem parallel_relation :
    Parallel heads faults Eq (relation countable) (relation countable) :=
  (parallel_equality kept same).orElse
    ((parallel_membership kept same).orElse (parallel_within kept same))

theorem parallel_joined {rest : Reader Condition} (connective : Connective)
    (parallel : Parallel heads faults Eq rest rest) :
    Parallel heads faults Eq (joined countable connective rest)
      (joined countable connective rest) := by
  apply Parallel.logged
  apply (parallel_relation kept same).bind_same
  intro first
  apply Parallel.spaced kept
  exact parallel.bind_same fun joinedTo => .accept rfl

/-- A condition is read alike, with any room for nesting. -/
theorem parallel_condition (levels : Nat) :
    Parallel heads faults Eq (condition countable levels) (condition countable levels) := by
  induction levels with
  | zero => exact .giveUp
  | succ levels ih =>
      apply Parallel.nested
      apply (parallel_joined kept same .both ih).orElse
      apply (parallel_joined kept same .either ih).orElse
      exact (parallel_relation kept same).bind_same fun only => .accept rfl

end Constructs

section Shifted

variable (same : ∀ fault, Possible countable fault → faults fault fault)

include same

/-- A relation is read alike everywhere. -/
theorem corresponds_relation :
    Corresponds faults Eq shift (relation countable) (relation countable) :=
  (parallel_relation (keptByTokens_shifted shift) same).corresponds

/-- A condition is read alike everywhere, with any room for nesting. -/
theorem corresponds_condition (levels : Nat) :
    Corresponds faults Eq shift (condition countable levels) (condition countable levels) :=
  (parallel_condition (keptByTokens_shifted shift) same levels).corresponds

end Shifted

/-- Reading a condition elsewhere moves its ending along and leaves its fault. -/
theorem condition_shifted (countable : Bool) (levels shift : Nat) (head : Head) :
    (condition countable levels (head.shifted shift)).ending =
        (condition countable levels head).ending.shifted shift ∧
      (condition countable levels (head.shifted shift)).fault =
        (condition countable levels head).fault := by
  have corresponds : Corresponds Eq Eq shift (condition countable levels) _ :=
    corresponds_condition (fun _ _ => rfl) levels
  exact ⟨(corresponds head).ending.eq_shifted, (eq_of_rel (corresponds head).fault).symm⟩

end PluralForms.Rule.Reader
