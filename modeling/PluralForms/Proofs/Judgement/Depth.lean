/-
# How deep a rule may be nested

A new interpreter is granted a number of levels.  For an operand with a count it
stops at a rule exactly if no level was granted, or if the rule starts with as many
relations as there are levels, each with its connective behind it.  Whatever follows
the last of these connectives is never looked at.  An interpreter that stops names
the levels that it was granted and keeps no fault.

The limit cannot be noticed in any other way: a rule that is not stopped is answered
alike under every larger limit.
-/

import PluralForms.Proofs.Judgement.Verdict
import PluralForms.Proofs.Reader.Agreement
import PluralForms.Proofs.Spelling.Course

namespace PluralForms

open Rule Text

/-- Who asks for more is granted no less. -/
theorem FrameBudget.grant_mono (budget : FrameBudget) {requested larger : Int}
    (more : requested ≤ larger) : budget.grant requested ≤ budget.grant larger := by
  unfold grant
  split <;> split <;> omega

namespace Interpreter

variable {budget : FrameBudget} {operand : Operand} {requested larger n : Int} {rule : String}

/-- The limit shows only in the answer to a rule that is stopped. -/
theorem reply_of_unstopped {interpreter other : Interpreter} {ending : Ending Condition}
    (same : interpreter.operand = other.operand) (unstopped : ending ≠ .tooDeep) :
    interpreter.reply rule ending = other.reply rule ending := by
  unfold reply
  rw [same]
  cases ending with
  | accepted chain head => cases other.operand.count <;> rfl
  | refused => cases other.operand.count <;> rfl
  | tooDeep => exact absurd rfl unstopped

section Finite

variable (finite : operand.count = some n)

include finite

/-- Where a new interpreter stops. -/
theorem tooDeep_iff_blocks :
    (∃ deepest, ((new budget operand requested).read rule).1.reply = .tooDeep deepest) ↔
      budget.grant requested ≤ 0 ∨
        ∃ run, Blocks (budget.grant requested).toNat run ∧ run <+: rule.toList := by
  simp only [reply_tooDeep_iff, exists_and_left, exists_eq', and_true]
  rw [attempt_new_of_finite finite]
  apply (Reader.condition_tooDeep_iff _ _ _).trans
  constructor
  · exact .inr
  · rintro (noLevel | blocks)
    · rw [Int.toNat_of_nonpos noLevel]
      exact ⟨[], .nil, List.nil_prefix⟩
    · exact blocks

/-- A new interpreter that stops names what it was granted and keeps no fault. -/
theorem fault_eq_none_of_tooDeep {deepest : Int}
    (stopped : ((new budget operand requested).read rule).1.reply = .tooDeep deepest) :
    deepest = budget.grant requested ∧
      ((new budget operand requested).read rule).2.fault = none := by
  obtain ⟨ending, rfl⟩ := reply_tooDeep_iff.1 stopped
  refine ⟨rfl, ?_⟩
  rw [attempt_new_of_finite finite] at ending
  rw [fault_read_new, attempt_new_of_finite finite]
  exact Reader.fault_of_tooDeep ending

/-- With a larger limit an interpreter does the same with a rule at which it does not
stop. -/
theorem read_of_larger (more : requested ≤ larger)
    (unstopped : ∀ deepest, ((new budget operand requested).read rule).1.reply ≠ .tooDeep deepest) :
    ((new budget operand larger).read rule).1.reply =
        ((new budget operand requested).read rule).1.reply ∧
      ((new budget operand larger).read rule).2.fault =
        ((new budget operand requested).read rule).2.fault := by
  have unended := ending_ne_tooDeep unstopped
  have enough := Int.toNat_le_toNat (budget.grant_mono more)
  have same : (new budget operand larger).attempt rule =
      (new budget operand requested).attempt rule := by
    rw [attempt_new_of_finite finite] at unended
    rw [attempt_new_of_finite finite, attempt_new_of_finite finite]
    exact Reader.agrees_condition true enough _ unended
  constructor
  · show reply _ rule _ = reply _ rule _
    rw [same]
    exact reply_of_unstopped rfl unended
  · rw [fault_read_new, fault_read_new, same]

/-- A chain is read to its end exactly if it has no more relations than levels were
granted. -/
theorem atEnd_iff_length_le {chain : Condition} (spelled : chain.SpelledBy rule.toList)
    (permitted : chain.Permitted) :
    (∃ truth reached, ((new budget operand requested).read rule).1.reply = .judged truth reached ∧
      reached.atEnd = true) ↔ (chain.relations.length : Int) ≤ budget.grant requested := by
  have pos := chain.length_relations_pos
  constructor
  · rintro ⟨truth, reached, judged, atEnd⟩
    obtain ⟨-, other, -, spelled', permitted', short, -⟩ := spelled_of_atEnd judged atEnd
    obtain rfl := spelled.unique permitted spelled' permitted'
    rw [room_new] at short
    omega
  · intro short
    have fits : chain.relations.length ≤ (new budget operand requested).gate.room := by
      rw [room_new]
      omega
    exact ⟨_, _, judged_of_spelled finite spelled permitted fits, decide_eq_true (Int.le_refl _)⟩

end Finite

end Interpreter

section Depth

variable {operand : Operand} {n : Int}

/-- The limit on nesting is exact: a rule is stopped for its blocks alone, what is said
about it is the limit, and nothing else depends on how large the limit is. -/
theorem nesting_limit_exact (finite : operand.count = some n) (budget : FrameBudget)
    (requested : Int) (rule : String) :
    let limit := budget.grant requested
    let after (requested : Int) := (Interpreter.new budget operand requested).read rule
    let Stops := ∃ deepest, (after requested).1.reply = .tooDeep deepest
    (Stops ↔ limit ≤ 0 ∨ ∃ run, Blocks limit.toNat run ∧ run <+: rule.toList) ∧
    (Stops → (after requested).1.reply = .tooDeep limit ∧ (after requested).2.cause? = none ∧
      assessReading rule none (after requested).1.reply = .ok (.indefinite (.tooDeep limit)) ∧
      (Cause.tooDeep limit).report.message = s!"Maximum condition depth ({limit}) exceeded") ∧
    (¬ Stops → ∀ larger, requested ≤ larger →
      (after larger).1.reply = (after requested).1.reply ∧
        (after larger).2.cause? = (after requested).2.cause?) ∧
    ∀ chain : Condition, chain.SpelledBy rule.toList → chain.Permitted →
      ((∃ truth reached, (after requested).1.reply = .judged truth reached ∧
        reached.atEnd = true) ↔ (chain.relations.length : Int) ≤ limit) := by
  intro limit after Stops
  refine ⟨Interpreter.tooDeep_iff_blocks finite, ?_, ?_, ?_⟩
  · rintro ⟨deepest, stopped⟩
    obtain ⟨rfl, faultless⟩ := Interpreter.fault_eq_none_of_tooDeep finite stopped
    have causeless : (after requested).2.cause? = none := by
      rw [Interpreter.cause?, faultless]
      rfl
    have assessed : assessReading rule none (after requested).1.reply =
        .ok (.indefinite (.tooDeep limit)) := by
      rw [stopped]
      rfl
    exact ⟨stopped, causeless, assessed, rfl⟩
  · intro unstopped larger more
    obtain ⟨reply, fault⟩ := Interpreter.read_of_larger finite more
      fun deepest stopped => unstopped ⟨deepest, stopped⟩
    refine ⟨reply, ?_⟩
    show Option.map _ _ = Option.map _ _
    rw [fault]
    rfl
  · intro chain spelled permitted
    exact Interpreter.atEnd_iff_length_le finite spelled permitted

/-- With a single level granted, a first connective stops the reading in front of
whatever follows. -/
theorem tooDeep_behind_first_connective :
    Blocks 1 "n is 1 or ".toList ∧
      ((Interpreter.new .standard (.integer 3) 1).read "n is 1 or x").1.reply = .tooDeep 1 := by
  have gap : IsGap [' '] := .singleton rfl
  have one : IsNumeral 1 ['1'] := .singleton rfl rfl
  have block : Blocks 1 "n is 1 or ".toList :=
    .cons (.equality .count gap .absent gap one) trivial gap .either gap .nil
  have finite : (Operand.integer 3).count = some 3 := rfl
  obtain ⟨stops, named, -⟩ := nesting_limit_exact finite .standard 1 "n is 1 or x"
  exact ⟨block, (named (stops.2 (.inr ⟨_, block, ['x'], rfl⟩))).1⟩

end Depth

end PluralForms
