/-
# The longest condition that a rule starts with

A reading that is not stopped and meets no fault goes as far as any permitted
condition can: no spelling of one at the start of the rule is longer than what was
read.  Ordered choices and greedy numerals could well miss a longer one.  They do not,
because a spelling of a relation either is read, perhaps with more digits, or meets a
fault in the digits that come to it, and because a connective is followed whenever it
can be.
-/

import PluralForms.Proofs.Judgement.Assessment
import PluralForms.Proofs.Spelling.GivingUp
import PluralForms.Proofs.Spelling.Meaning

namespace PluralForms

open Rule Text

namespace Rule.Reader

variable {levels offset : Nat} {text rest : List Char}

/-- A condition that starts with a relation is read at least as far as the relation. -/
theorem accepted_of_takes {only : Relation} (taken : Takes (relation true) text only rest)
    (unstopped : (condition true (levels + 1) ⟨offset, text⟩).ending ≠ .tooDeep) :
    ∃ chain head, (condition true (levels + 1) ⟨offset, text⟩).ending = .accepted chain head ∧
      offset + (text.length - rest.length) ≤ head.offset := by
  rcases followed_or_not rest with unfollowed |
    ⟨connective, before, after, remaining, gapBefore, gapAfter, clear, rfl⟩
  · have whole := takes_condition_of_relation taken unfollowed levels
    exact ⟨_, _, whole.ending offset, Nat.le_refl _⟩
  · obtain ⟨ending, -⟩ := condition_of_connective taken gapBefore gapAfter clear levels offset
    rw [ending] at unstopped ⊢
    cases behind : (condition true levels
        ⟨offset + (text.length - remaining.length), remaining⟩).ending with
    | accepted chain head =>
        obtain ⟨part, -, -, -, passes⟩ := spelled_of_condition behind
        refine ⟨_, head, rfl, ?_⟩
        rw [passes.offset_eq]
        simp only [List.length_append]
        omega
    | refused => exact ⟨_, _, rfl, Nat.le_refl _⟩
    | tooDeep =>
        rw [behind] at unstopped
        exact absurd rfl unstopped

/-- A spelling is read to its end at least, unless the reading is stopped or meets a
fault. -/
theorem accepted_of_spelled {chain : Condition} {part : List Char} (spelled : chain.SpelledBy part)
    (permitted : chain.Permitted)
    (unstopped : (condition true levels ⟨offset, part ++ rest⟩).ending ≠ .tooDeep)
    (faultless : (condition true levels ⟨offset, part ++ rest⟩).fault = none) :
    ∃ found head, (condition true levels ⟨offset, part ++ rest⟩).ending = .accepted found head ∧
      offset + part.length ≤ head.offset := by
  induction spelled generalizing levels offset with
  | @relation only part spelled =>
      cases levels with
      | zero => exact absurd rfl unstopped
      | succ levels =>
          rcases takes_or_faulty spelled (Condition.permitted_relation.1 permitted) rest with
            ⟨grown, more, remaining, rfl, taken⟩ | ⟨fault, faulty⟩
          · obtain ⟨found, head, accepted, reached⟩ := accepted_of_takes taken unstopped
            refine ⟨found, head, accepted, Nat.le_trans ?_ reached⟩
            simp only [List.length_append]
            omega
          · have refused := refuses_condition (refuses_relation_of_faulty faulty) levels
            exact nomatch (refused.fault offset).symm.trans faultless
  | @joined first connective chain relation before after remaining firstSpelled gapBefore gapAfter
      restSpelled ih =>
      cases levels with
      | zero => exact absurd rfl unstopped
      | succ levels =>
          obtain ⟨firstPermitted, restPermitted⟩ := Condition.permitted_joined.1 permitted
          obtain ⟨ending, fault⟩ := condition_of_spelled firstSpelled firstPermitted gapBefore
            connective gapAfter (restSpelled.clearOf_isBlank rest) levels offset
          simp only [List.append_assoc] at unstopped faultless ⊢
          rw [ending] at unstopped ⊢
          rw [fault] at faultless
          rw [Ne, Ending.behind_eq_tooDeep_iff] at unstopped
          obtain ⟨found, head, accepted, reached⟩ := ih restPermitted unstopped faultless
          refine ⟨_, head, congrArg _ accepted, Nat.le_trans ?_ reached⟩
          simp only [List.length_append]
          omega

end Rule.Reader

namespace Interpreter

variable {budget : FrameBudget} {operand : Operand} {requested n : Int} {rule : String}

/-- What a condition could be read as is read at least, if nothing is in the way. -/
theorem exists_judged_of_prefix (finite : operand.count = some n)
    (unstopped : ∀ deepest, ((new budget operand requested).read rule).1.reply ≠ .tooDeep deepest)
    (causeless : ((new budget operand requested).read rule).2.cause? = none)
    {chain : Condition} {part : List Char} (spelled : chain.SpelledBy part)
    (permitted : chain.Permitted) (prefixed : part <+: rule.toList) :
    ∃ truth reached, ((new budget operand requested).read rule).1.reply = .judged truth reached ∧
      (part.length : Int) ≤ reached.offset := by
  obtain ⟨rest, whole⟩ := prefixed
  have attempt : (new budget operand requested).attempt rule =
      Reader.condition true (budget.grant requested).toNat ⟨0, part ++ rest⟩ := by
    rw [attempt_new_of_finite finite, whole]
    rfl
  have unended := ending_ne_tooDeep unstopped
  have faultless : ((new budget operand requested).attempt rule).fault = none := by
    rw [← fault_read_new]
    exact Option.map_eq_none_iff.1 causeless
  rw [attempt] at unended faultless
  obtain ⟨found, head, accepted, reached⟩ :=
    Reader.accepted_of_spelled spelled permitted unended faultless
  rw [← attempt] at accepted
  refine ⟨_, _, reply_judged_iff.2 ⟨n, found, head, finite, accepted, rfl, rfl⟩, ?_⟩
  rw [Nat.zero_add] at reached
  exact Int.ofNat_le.2 reached

end Interpreter

section Longest

variable {operand : Operand} {n : Int}

/-- Without a fault, what is judged is the longest condition that the rule starts with,
and nothing is judged only if the rule starts with none. -/
theorem reading_longest (finite : operand.count = some n) (budget : FrameBudget) (requested : Int)
    (rule : String)
    (unstopped : ∀ deepest,
      ((Interpreter.new budget operand requested).read rule).1.reply ≠ .tooDeep deepest)
    (causeless : ((Interpreter.new budget operand requested).read rule).2.cause? = none) :
    let after := (Interpreter.new budget operand requested).read rule
    (∀ truth reached, after.1.reply = .judged truth reached →
      ∃ (chain : Condition) (part : List Char), chain.SpelledBy part ∧ chain.Permitted ∧
        part <+: rule.toList ∧ reached = ⟨rule.toList, part.length⟩ ∧
        (truth = true ↔ chain.IsTrue n) ∧
        ∀ (other : Condition) (longer : List Char), other.SpelledBy longer → other.Permitted →
          longer <+: rule.toList → longer.length ≤ part.length) ∧
    (after.1.reply = .unread ↔
      ¬ ∃ (chain : Condition) (part : List Char), chain.SpelledBy part ∧ chain.Permitted ∧
        part <+: rule.toList) := by
  intro after
  constructor
  · intro truth reached judged
    obtain ⟨n', chain, head, finite', accepted, rfl, rfl⟩ := Interpreter.reply_judged_iff.1 judged
    obtain rfl : n' = n := Option.some.inj (finite'.symm.trans finite)
    obtain ⟨part, spelled, permitted, -, whole, offset⟩ := Interpreter.spelled_of_accepted accepted
    refine ⟨chain, part, spelled, permitted, ⟨head.ahead, whole.symm⟩, by rw [offset],
      Condition.holds_iff permitted, ?_⟩
    intro other longer otherSpelled otherPermitted prefixed
    obtain ⟨_, place, judged', reached⟩ := Interpreter.exists_judged_of_prefix finite unstopped
      causeless otherSpelled otherPermitted prefixed
    obtain ⟨-, rfl⟩ := Reply.judged.inj (judged.symm.trans judged')
    rw [offset] at reached
    exact Int.ofNat_le.1 reached
  · constructor
    · rintro unread ⟨chain, part, spelled, permitted, prefixed⟩
      obtain ⟨_, _, judged, -⟩ := Interpreter.exists_judged_of_prefix finite unstopped causeless
        spelled permitted prefixed
      exact nomatch unread.symm.trans judged
    · intro noPrefix
      cases replied : after.1.reply with
      | judged truth reached =>
          obtain ⟨_, chain, head, -, accepted, -, -⟩ := Interpreter.reply_judged_iff.1 replied
          obtain ⟨part, spelled, permitted, -, whole, -⟩ := Interpreter.spelled_of_accepted accepted
          exact absurd ⟨chain, part, spelled, permitted, head.ahead, whole.symm⟩ noPrefix
      | unread => rfl
      | tooDeep deepest => exact absurd replied (unstopped deepest)

/-- A connective with nothing to join ends the longest condition at the relation. -/
theorem length_le_of_unfinished_alternative :
    let after := (Interpreter.new .standard (.integer 12) 100).read "n is 12 or n"
    after.1.reply = .judged true ⟨"n is 12 or n".toList, 7⟩ ∧ after.2.cause? = none ∧
      ∀ (chain : Condition) (part : List Char), chain.SpelledBy part → chain.Permitted →
        part <+: "n is 12 or n".toList → part.length ≤ 7 := by
  intro after
  have finite : (Operand.integer 12).count = some 12 := rfl
  have judged : after.1.reply = .judged true ⟨"n is 12 or n".toList, 7⟩ := by decide +kernel
  have causeless : after.2.cause? = none := by decide +kernel
  have unstopped (deepest : Int) : after.1.reply ≠ .tooDeep deepest := by
    rw [judged]
    exact nofun
  obtain ⟨_, part, -, -, -, reached, -, longest⟩ :=
    (reading_longest finite .standard 100 _ unstopped causeless).1 _ _ judged
  have seven : part.length = 7 := (Int.ofNat_inj.1 (congrArg Place.offset reached)).symm
  exact ⟨judged, causeless, seven ▸ longest⟩

end Longest

end PluralForms
