/-
# Judging while reading

A reader can compute with the count as it goes: a word for the count gives the
count, a remainder is taken as soon as its divisor is known, and a connective
joins two truth values.  No condition is ever built, and the count is at hand
wherever a text is accepted or refused.

Such a reader stops where reading alone stops and leaves the same fault, and the
truth that it finds is the truth of the condition that is read there.  So it is
no loss that an interpreter reads first and judges afterwards.
-/

import PluralForms.Proofs.Reader.Grammar
import PluralForms.Rule.Interpreter

namespace PluralForms

open Rule

namespace Rule.Reader

/-- Reads the word for the count, and gives the count if there is one. -/
def countOf (counted : Option Int) : Reader Int := do
  word .count
  match counted with
  | some n => accept n
  | none => reject .noCount

/-- Reads a remainder and takes it. -/
def remainderOf (counted : Option Int) : Reader Int := do
  let n ← countOf counted
  blanks
  word .modulo
  blanks
  let divisor ← numeral
  if divisor = 0 then reject .zeroDivisor else accept (n.tmod divisor)

/-- Reads an expression and computes it. -/
def expressionOf (counted : Option Int) : Reader Int :=
  remainderOf counted <|> countOf counted

/-- Reads an equality and compares. -/
def equalityOf (counted : Option Int) : Reader Bool := do
  let subject ← expressionOf counted
  blanks
  word .equals
  let denied ← denial
  blanks
  let value ← numeral
  accept ((subject == (value : Int)) != denied)

/-- Reads a membership and decides it. -/
def membershipOf (counted : Option Int) : Reader Bool := do
  let subject ← expressionOf counted
  let denied ← denial
  blanks
  word .member
  blanks
  let bounds ← interval
  accept (bounds.contains subject != denied)

/-- Reads that an expression lies within an interval and decides it. -/
def withinOf (counted : Option Int) : Reader Bool := do
  let subject ← expressionOf counted
  blanks
  word .within
  blanks
  let bounds ← interval
  accept (bounds.contains subject)

/-- Reads a single relation and decides it. -/
def relationOf (counted : Option Int) : Reader Bool :=
  equalityOf counted <|> membershipOf counted <|> withinOf counted

/-- Reads a relation, a connective and what it joins, and joins their truth. -/
def joinedOf (counted : Option Int) (connective : Connective) (rest : Reader Bool) :
    Reader Bool := do
  let first ← relationOf counted
  blanks
  word (connectiveWord connective)
  blanks
  let joinedTo ← rest
  accept (connective.join first joinedTo)

/-- Reads a condition and decides it, with room for so many levels of nesting. -/
def conditionOf (counted : Option Int) : Nat → Reader Bool
  | 0 => giveUp
  | levels + 1 =>
      let rest : Reader Bool := fun head => conditionOf counted levels head
      joinedOf counted .both rest <|> joinedOf counted .either rest <|> relationOf counted

/-- Something that is read amounts to this value for the count. -/
def AmountsTo {α β : Type} (meaning : Int → α → β) (counted : Option Int) (found : α)
    (value : β) : Prop :=
  ∃ n, counted = some n ∧ meaning n found = value

section Constructs

variable {counted : Option Int}

theorem parallel_countOf :
    Parallel Eq Eq (fun found n => found = .count ∧ counted = some n) (count counted.isSome)
      (countOf counted) := by
  apply Parallel.logged_left
  apply (parallel_word keptByTokens_eq _).bind_same
  intro _
  cases counted with
  | some n => exact .accept ⟨rfl, rfl⟩
  | none => exact .reject rfl

theorem parallel_remainderOf :
    Parallel Eq Eq (AmountsTo Expression.value counted) (remainder counted.isSome)
      (remainderOf counted) := by
  apply Parallel.logged_left
  apply parallel_countOf.bind
  rintro _ n ⟨rfl, isCount⟩
  apply Parallel.spaced keptByTokens_eq
  apply (parallel_numeral keptByTokens_eq).bind_same
  intro divisor
  split
  · exact .reject rfl
  · exact .accept ⟨n, isCount, rfl⟩

theorem parallel_expressionOf :
    Parallel Eq Eq (AmountsTo Expression.value counted) (expression counted.isSome)
      (expressionOf counted) := by
  apply parallel_remainderOf.orElse
  apply parallel_countOf.mono
  rintro _ n ⟨rfl, isCount⟩
  exact ⟨n, isCount, rfl⟩

theorem parallel_equalityOf :
    Parallel Eq Eq (AmountsTo Relation.holds counted) (equality counted.isSome)
      (equalityOf counted) := by
  apply Parallel.logged_left
  apply parallel_expressionOf.bind
  rintro subject _ ⟨n, isCount, rfl⟩
  apply (parallel_blanks keptByTokens_eq).bind_same
  intro _
  apply (parallel_word keptByTokens_eq _).bind_same
  intro _
  apply (parallel_denial keptByTokens_eq).bind_same
  intro denied
  apply (parallel_blanks keptByTokens_eq).bind_same
  intro _
  apply (parallel_numeral keptByTokens_eq).bind_same
  intro value
  exact .accept ⟨n, isCount, rfl⟩

theorem parallel_membershipOf :
    Parallel Eq Eq (AmountsTo Relation.holds counted) (membership counted.isSome)
      (membershipOf counted) := by
  apply Parallel.logged_left
  apply parallel_expressionOf.bind
  rintro subject _ ⟨n, isCount, rfl⟩
  apply (parallel_denial keptByTokens_eq).bind_same
  intro denied
  apply Parallel.spaced keptByTokens_eq
  apply (parallel_interval keptByTokens_eq fun _ => rfl).bind_same
  intro bounds
  exact .accept ⟨n, isCount, rfl⟩

theorem parallel_withinOf :
    Parallel Eq Eq (AmountsTo Relation.holds counted) (within counted.isSome)
      (withinOf counted) := by
  apply Parallel.logged_left
  apply parallel_expressionOf.bind
  rintro subject _ ⟨n, isCount, rfl⟩
  apply Parallel.spaced keptByTokens_eq
  apply (parallel_interval keptByTokens_eq fun _ => rfl).bind_same
  intro bounds
  exact .accept ⟨n, isCount, rfl⟩

theorem parallel_relationOf :
    Parallel Eq Eq (AmountsTo Relation.holds counted) (relation counted.isSome)
      (relationOf counted) :=
  parallel_equalityOf.orElse (parallel_membershipOf.orElse parallel_withinOf)

theorem parallel_joinedOf {rest : Reader Condition} {restOf : Reader Bool}
    (connective : Connective)
    (parallel : Parallel Eq Eq (AmountsTo Condition.holds counted) rest restOf) :
    Parallel Eq Eq (AmountsTo Condition.holds counted)
      (joined counted.isSome connective rest) (joinedOf counted connective restOf) := by
  apply Parallel.logged_left
  apply parallel_relationOf.bind
  rintro first _ ⟨n, isCount, rfl⟩
  apply Parallel.spaced keptByTokens_eq
  apply parallel.bind
  rintro chain _ ⟨n', isCount', rfl⟩
  have sameCount : n' = n := Option.some.inj (isCount'.symm.trans isCount)
  exact .accept ⟨n, isCount, by rw [sameCount]; rfl⟩

/-- Judging while reading parallel to reading, for any room for nesting. -/
theorem parallel_conditionOf (levels : Nat) :
    Parallel Eq Eq (AmountsTo Condition.holds counted) (condition counted.isSome levels)
      (conditionOf counted levels) := by
  induction levels with
  | zero => exact .giveUp
  | succ levels ih =>
      apply Parallel.nested_left
      apply (parallel_joinedOf .both ih).orElse
      apply (parallel_joinedOf .either ih).orElse
      apply parallel_relationOf.map_left
      rintro only _ ⟨n, isCount, rfl⟩
      exact ⟨n, isCount, rfl⟩

end Constructs

end Rule.Reader

namespace Interpreter

/-- Reads a rule from its first character and judges it on the way. -/
def fusedAttempt (interpreter : Interpreter) (rule : String) : Attempt Bool :=
  Reader.conditionOf interpreter.operand.count interpreter.gate.room (Head.start rule.toList)

/-- The answer to a rule that was judged on the way. -/
def fusedReply (interpreter : Interpreter) (rule : String) : Ending Bool → Reply
  | .accepted truth head => .judged truth ⟨rule.toList, head.offset⟩
  | .refused => .unread
  | .tooDeep => .tooDeep interpreter.gate.limit

/-- An interpreter that judges on the way gives the same answers and keeps the
same fault. -/
theorem read_eq_fused (interpreter : Interpreter) (rule : String) :
    (interpreter.read rule).1.reply =
        interpreter.fusedReply rule (interpreter.fusedAttempt rule).ending ∧
      (interpreter.read rule).2.fault =
        (interpreter.fusedAttempt rule).fault.or interpreter.fault := by
  obtain ⟨ending, fault⟩ : (interpreter.attempt rule).Parallel Eq Eq
      (Reader.AmountsTo Condition.holds interpreter.operand.count)
      (interpreter.fusedAttempt rule) :=
    Reader.parallel_conditionOf interpreter.gate.room (Head.start rule.toList) _ rfl
  constructor
  · show interpreter.reply rule (interpreter.attempt rule).ending = _
    generalize (interpreter.attempt rule).ending = found,
      (interpreter.fusedAttempt rule).ending = found' at ending
    cases ending with
    | accepted amounts together =>
        obtain ⟨n, isCount, rfl⟩ := amounts
        cases together
        simp [reply, fusedReply, isCount]
    | refused => cases isCount : interpreter.operand.count <;> simp [reply, fusedReply, isCount]
    | tooDeep => cases isCount : interpreter.operand.count <;> simp [reply, fusedReply, isCount]
  · show (interpreter.attempt rule).fault.or interpreter.fault = _
    rw [eq_of_rel fault]

/-- What a new interpreter knows to be wrong after a rule is what one that judges on the way
finds. -/
theorem cause?_read_new_eq_fused (budget : FrameBudget) (operand : Operand) (requested : Int)
    (rule : String) :
    ((new budget operand requested).read rule).2.cause? =
      ((new budget operand requested).fusedAttempt rule).fault.map (·.cause operand) := by
  obtain ⟨-, fault⟩ := (new budget operand requested).read_eq_fused rule
  rw [cause?, fault]
  exact congrArg _ (Option.or_none)

end Interpreter

end PluralForms
