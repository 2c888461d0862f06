/-
# Where a reading gives up

A reading that is not stopped gives up somewhere: at the start of the text if it
accepts nothing, and otherwise behind the connective at which the chain that was
read ends, if there is one.  The fault that it leaves is the one that this last
text starts with, if it starts with one, and there is no fault otherwise.

Nothing else is ever met on the way.  A first relation is read up to three times
and a connective is tried twice, but a relation that is read meets no fault, and a
text that starts with one gives it at every attempt.
-/

import PluralForms.Proofs.Spelling.Course

namespace PluralForms.Rule

open Text

/-- What a reading of the text ended at without being able to read on there. -/
inductive Ending.GivesUpAt (text : List Char) : Ending Condition → List Char → Prop
  | start : GivesUpAt text .refused text
  | connective {chain : Condition} {head : Head} {before after rest : List Char}
      (gapBefore : IsGap before) (connective : Connective) (gapAfter : IsGap after)
      (ahead_eq : head.ahead = before ++ (connective.letters ++ (after ++ rest))) :
      GivesUpAt text (.accepted chain head) rest

namespace Reader

variable {countable : Bool} {levels : Nat} {text rest : List Char} {offset : Nat} {fault : Fault}

/-- Behind a first relation and its connective a reading gives up where the
condition there does. -/
theorem givesUpAt_behind {first : Relation} {connective : Connective}
    {before after remaining : List Char} {between : Head} {ending : Ending Condition}
    (gapBefore : IsGap before) (gapAfter : IsGap after) (clear : ClearOf isBlank remaining)
    (between_eq : between.ahead = before ++ (connective.letters ++ (after ++ remaining)))
    (clearRest : ClearOf isBlank rest) :
    (ending.behind first connective between).GivesUpAt text rest ↔
      ending.GivesUpAt remaining rest := by
  cases ending with
  | accepted chain head =>
      constructor <;> rintro (_ | ⟨gapBefore', other, gapAfter', ahead_eq⟩) <;>
        exact .connective gapBefore' other gapAfter' ahead_eq
  | refused =>
      constructor
      · rintro (_ | ⟨gapBefore', other, gapAfter', ahead_eq⟩)
        obtain rfl := behind_connective_unique gapBefore gapAfter clear gapBefore' gapAfter'
          clearRest (between_eq.symm.trans ahead_eq)
        exact .start
      · rintro (_ | _)
        exact .connective gapBefore connective gapAfter between_eq
  | tooDeep => exact iff_of_false nofun nofun

/-- Without a count, nothing is a relation. -/
theorem refuses_of_uncountable (text : List Char) :
    ∃ latest, Refuses (relation false) text latest := by
  rcases takes_or_refuses false text with ⟨only, rest, taken⟩ | refused
  · exact nomatch countable_of_relation (taken.ending 0)
  · exact refused

theorem countable_of_condition {chain : Condition} {head moved : Head}
    (accepted : (condition countable levels head).ending = .accepted chain moved) :
    countable = true := by
  cases countable with
  | true => rfl
  | false =>
      cases levels with
      | zero => cases accepted
      | succ levels =>
          obtain ⟨latest, refused⟩ := refuses_of_uncountable head.ahead
          exact nomatch ((refuses_condition refused levels).ending head.offset).symm.trans accepted

/-- The fault that a reading leaves is the one at the text where it gave up. -/
theorem fault_iff_givesUpAt
    (unstopped : (condition countable levels ⟨offset, text⟩).ending ≠ .tooDeep) :
    (condition countable levels ⟨offset, text⟩).fault = some fault ↔
      ∃ rest, (condition countable levels ⟨offset, text⟩).ending.GivesUpAt text rest ∧
        FaultyStart countable rest fault := by
  have ofRefused {levels offset : Nat} {text : List Char} {latest : Option Fault}
      (refused : Refuses (relation countable) text latest) :
      (condition countable (levels + 1) ⟨offset, text⟩).fault = some fault ↔
        ∃ rest, (condition countable (levels + 1) ⟨offset, text⟩).ending.GivesUpAt text rest ∧
          FaultyStart countable rest fault := by
    have noCondition := refuses_condition refused levels
    rw [noCondition.fault, noCondition.ending, refused.fault_iff]
    constructor
    · intro faulty
      exact ⟨text, .start, faulty⟩
    · rintro ⟨_, ⟨⟩, faulty⟩
      exact faulty
  cases countable with
  | false =>
      cases levels with
      | zero => exact absurd rfl unstopped
      | succ levels =>
          obtain ⟨latest, refused⟩ := refuses_of_uncountable text
          exact ofRefused refused
  | true =>
      induction levels, text using course_induction generalizing offset with
      | exhausted text => exact absurd rfl unstopped
      | refused levels text latest refused => exact ofRefused refused
      | alone levels text only rest taken unfollowed =>
          have whole := takes_condition_of_relation taken unfollowed levels
          rw [whole.fault, whole.ending]
          apply iff_of_false nofun
          rintro ⟨_, _ | ⟨gapBefore, connective, gapAfter, ahead_eq⟩, -⟩
          exact unfollowed connective ⟨_, _, _, gapBefore, gapAfter, ahead_eq⟩
      | followed levels text first before connective after remaining taken gapBefore gapAfter
          clear ih =>
          obtain ⟨ending, left⟩ :=
            condition_of_connective taken gapBefore gapAfter clear levels offset
          rw [ending, Ne, Ending.behind_eq_tooDeep_iff] at unstopped
          rw [ending, left]
          apply (ih unstopped).trans
          apply exists_congr
          intro rest
          apply and_congr_left
          intro faulty
          exact (givesUpAt_behind gapBefore gapAfter clear rfl faulty.clearOf_isBlank).symm

/-- Behind fewer blocks than there are levels a fault is met, and it does not stop the
reading. -/
theorem fault_of_blocks {count : Nat} {run : List Char} (blocks : Blocks count run)
    (fewer : count < levels) (faulty : FaultyStart true rest fault) :
    (condition true levels ⟨offset, run ++ rest⟩).fault = some fault ∧
      (condition true levels ⟨offset, run ++ rest⟩).ending ≠ .tooDeep := by
  obtain ⟨levels, rfl⟩ := Nat.exists_eq_add_one_of_ne_zero (Nat.ne_zero_of_lt fewer)
  induction blocks generalizing levels offset with
  | nil =>
      have refused := refuses_condition (refuses_relation_of_faulty faulty) levels
      refine ⟨refused.fault offset, fun stopped => ?_⟩
      cases (refused.ending offset).symm.trans stopped
  | @cons first count relation before after others firstSpelled permitted gapBefore connective
      gapAfter blocks ih =>
      obtain ⟨levels, rfl⟩ := Nat.exists_eq_add_one_of_ne_zero
        (Nat.ne_zero_of_lt (Nat.lt_of_succ_lt_succ fewer))
      obtain ⟨ending, left⟩ := condition_of_spelled firstSpelled permitted gapBefore connective
        gapAfter (blocks.clearOf_isBlank_append faulty.clearOf_isBlank) (levels + 1) offset
      simp only [List.append_assoc]
      rw [ending, left, Ne, Ending.behind_eq_tooDeep_iff]
      exact ih levels (Nat.lt_of_succ_lt_succ fewer)

/-- The fault that a reading leaves stands behind some blocks, fewer than there are
levels. -/
theorem fault_iff_blocks :
    (condition true levels ⟨offset, text⟩).fault = some fault ↔
      ∃ count run rest, count < levels ∧ Blocks count run ∧ text = run ++ rest ∧
        FaultyStart true rest fault := by
  constructor
  · induction levels, text using course_induction generalizing offset with
    | exhausted text => exact nofun
    | refused levels text latest refused =>
        intro left
        rw [(refuses_condition refused levels).fault] at left
        exact ⟨0, [], text, Nat.succ_pos _, .nil, rfl, refused.fault_iff.1 left⟩
    | alone levels text only rest taken unfollowed =>
        intro left
        have faultless := (takes_condition_of_relation taken unfollowed levels).fault offset
        exact nomatch faultless.symm.trans left
    | followed levels text first before connective after remaining taken gapBefore gapAfter clear
        ih =>
        intro left
        rw [(condition_of_connective taken gapBefore gapAfter clear levels offset).2] at left
        obtain ⟨count, run, rest, fewer, blocks, rfl, faulty⟩ := ih left
        obtain ⟨relation, spelled, permitted, rfl⟩ := spelled_of_takes taken
        exact ⟨count + 1, _, rest, Nat.succ_lt_succ fewer,
          .cons spelled permitted gapBefore connective gapAfter blocks, by simp, faulty⟩
  · rintro ⟨count, run, rest, fewer, blocks, rfl, faulty⟩
    exact (fault_of_blocks blocks fewer faulty).1

end Reader

namespace Recorder

variable {countable : Bool} {levels : Nat} {head : Head} {fault : Fault}

/-- A fault in front of a connective or behind it. -/
theorem mem_faults_joined {expected : Connective} {next : Recorder Condition}
    (met : fault ∈ (joined countable expected next head).faults) :
    fault ∈ (relation countable head).faults ∨
      ∃ first moved before connective after behind,
        (relation countable head).ending = .accepted first moved ∧
        IsGap before ∧ IsGap after ∧ ClearOf isBlank behind.ahead ∧
        moved.ahead = before ++ (Connective.letters connective ++ (after ++ behind.ahead)) ∧
        fault ∈ (next behind).faults := by
  rcases mem_faults_bind.1 met with met | ⟨first, moved, relationRead, met⟩
  · exact .inl met
  obtain ⟨before, after, behind, gapBefore, gapAfter, clear, passes, met⟩ :=
    exists_gaps_of_mem_faults met
  rcases mem_faults_bind.1 met with met | ⟨_, _, -, met⟩
  · rw [Reader.letters_connectiveWord] at passes
    exact .inr ⟨first, moved, before, expected, after, behind, relationRead, gapBefore, gapAfter,
      clear, by simpa using passes.ahead_eq, met⟩
  · exact absurd met (not_mem_faults_pure _)

/-- All that is met in a condition is met in its first relation or behind a
connective. -/
theorem mem_faults_condition (met : fault ∈ (condition countable (levels + 1) head).faults) :
    fault ∈ (relation countable head).faults ∨
      ∃ first moved before connective after behind,
        (relation countable head).ending = .accepted first moved ∧
        IsGap before ∧ IsGap after ∧ ClearOf isBlank behind.ahead ∧
        moved.ahead = before ++ (Connective.letters connective ++ (after ++ behind.ahead)) ∧
        fault ∈ (condition countable levels behind).faults := by
  rcases mem_faults_orElse.1 met with met | ⟨-, met⟩
  · exact mem_faults_joined met
  rcases mem_faults_orElse.1 met with met | ⟨-, met⟩
  · exact mem_faults_joined met
  rcases mem_faults_bind.1 met with met | ⟨_, _, -, met⟩
  · exact .inl met
  · exact absurd met (not_mem_faults_pure _)

/-- Every fault that is met on the way is the one that is left in the end. -/
theorem fault_of_mem_faults (met : fault ∈ (condition countable levels head).faults)
    (offset : Nat) :
    (Reader.condition countable levels ⟨offset, head.ahead⟩).fault = some fault := by
  induction levels generalizing head offset with
  | zero => exact absurd met (not_mem_faults_quiet _)
  | succ levels ih =>
      rcases mem_faults_condition met with met |
        ⟨first, moved, before, connective, after, behind, relationRead, gapBefore, gapAfter, clear,
          ahead_eq, met⟩
      · have refused := Reader.refuses_relation_of_faulty (faulty_of_relation met)
        exact (Reader.refuses_condition refused levels).fault offset
      · rw [(follows_relation countable head).1] at relationRead
        obtain rfl := Reader.countable_of_relation relationRead
        have taken := Reader.takes_of_accepted relationRead
        rw [ahead_eq] at taken
        rw [(Reader.condition_of_connective taken gapBefore gapAfter clear levels offset).2]
        exact ih met _

end Recorder

end PluralForms.Rule
