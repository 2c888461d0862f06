/-
# The course of a reading

A condition is read one relation after another.  At each of them the reading takes
one of three courses: the relation is refused, it is read and no connective follows,
or it is read and what stands behind its connective is read in the same way, with
one level of nesting less.  That is all there is to know about a reading; what is
shown of it here and elsewhere is shown for each of the three courses and for the
reading that has no level left.

The first thing to show is where the levels come to an end: a reading stops exactly
at a text that starts with as many relations as there are levels, each with its
connective behind it.
-/

import PluralForms.Proofs.Spelling.Chain
import PluralForms.Proofs.Spelling.Outcome

namespace PluralForms.Rule

open Text

theorem IsGap.append {gap more : List Char} (isGap : IsGap gap) (isMore : IsGap more) :
    IsGap (gap ++ more) := by
  refine ⟨by simp [isGap.nonempty], ?_⟩
  intro c inEither
  rcases List.mem_append.1 inEither with inGap | inMore
  · exact isGap.blank c inGap
  · exact isMore.blank c inMore

theorem Ending.behind_eq_tooDeep_iff {first : Relation} {connective : Connective} {between : Head}
    {ending : Ending Condition} :
    ending.behind first connective between = .tooDeep ↔ ending = .tooDeep := by
  cases ending <;> simp [Ending.behind]

/-- So many permitted relations in a row, each with a connective between gaps behind
it. -/
inductive Blocks : Nat → List Char → Prop
  | nil : Blocks 0 []
  | cons {first : Relation} {count : Nat} {relation before after others : List Char}
      (firstSpelled : first.SpelledBy relation) (permitted : first.Permitted)
      (gapBefore : IsGap before) (connective : Connective) (gapAfter : IsGap after)
      (blocks : Blocks count others) :
      Blocks (count + 1) (relation ++ (before ++ (connective.letters ++ (after ++ others))))

/-- A block starts with the letter of the count. -/
theorem Blocks.clearOf_isBlank {count : Nat} {run : List Char} (blocks : Blocks (count + 1) run)
    (rest : List Char) : ClearOf isBlank (run ++ rest) := by
  cases blocks with
  | cons firstSpelled =>
      obtain ⟨tail, rfl⟩ := firstSpelled.exists_cons
      exact clearOf_cons.2 (by decide)

/-- Blocks put no blank in front of a text. -/
theorem Blocks.clearOf_isBlank_append {count : Nat} {run rest : List Char}
    (blocks : Blocks count run) (clear : ClearOf isBlank rest) :
    ClearOf isBlank (run ++ rest) := by
  cases count with
  | zero =>
      cases blocks
      exact clear
  | succ count => exact blocks.clearOf_isBlank rest

namespace Reader

section Determined

variable {α : Type} {reader : Reader α} {text rest rest' : List Char} {value other : α}

theorem Takes.unique (taken : Takes reader text value rest)
    (taken' : Takes reader text other rest') : value = other ∧ rest = rest' := by
  have same := (taken.ending 0).symm.trans (taken'.ending 0)
  injection same with sameValue sameHead
  injection sameHead with _ sameRest
  exact ⟨sameValue, sameRest⟩

theorem Takes.not_refuses {latest : Option Fault} (taken : Takes reader text value rest) :
    ¬ Refuses reader text latest :=
  fun refused => nomatch (taken.ending 0).symm.trans (refused.ending 0)

end Determined

/-- Where a relation is accepted, it is taken. -/
theorem takes_of_accepted {countable : Bool} {only : Relation} {head moved : Head}
    (accepted : (relation countable head).ending = .accepted only moved) :
    Takes (relation countable) head.ahead only moved.ahead := by
  rcases takes_or_refuses countable head.ahead with ⟨other, rest, taken⟩ | ⟨latest, refused⟩
  · have same := (taken.ending head.offset).symm.trans accepted
    cases same
    exact taken
  · exact nomatch (refused.ending head.offset).symm.trans accepted

/-- What is taken for a relation is the spelling of a permitted one. -/
theorem spelled_of_takes {only : Relation} {text rest : List Char}
    (taken : Takes (relation true) text only rest) :
    ∃ part, only.SpelledBy part ∧ only.Permitted ∧ text = part ++ rest := by
  obtain ⟨part, spelled, permitted, passes⟩ := spelled_of_relation (taken.ending 0)
  exact ⟨part, spelled, permitted, passes.ahead_eq⟩

section Followed

variable {connective other : Connective} {before before' after after' rest rest' : List Char}

/-- A text is followed by no connective, or by one that has all the blanks behind
it. -/
theorem followed_or_not (text : List Char) :
    (∀ connective, ¬ Continues connective text) ∨
      ∃ (connective : Connective) (before after rest : List Char), IsGap before ∧ IsGap after ∧
        ClearOf isBlank rest ∧ text = before ++ (connective.letters ++ (after ++ rest)) := by
  by_cases followed : ∃ connective, Continues connective text
  · right
    obtain ⟨connective, before, after, rest, gapBefore, gapAfter, rfl⟩ := followed
    rcases clearOf_or_exists_gap rest with clear | ⟨more, remaining, isMore, clear, rfl⟩
    · exact ⟨connective, before, after, rest, gapBefore, gapAfter, clear, rfl⟩
    · exact ⟨connective, before, after ++ more, remaining, gapBefore, gapAfter.append isMore, clear,
        by simp⟩
  · left
    intro connective continues
    exact followed ⟨connective, continues⟩

/-- What stands behind a connective is known if it starts with no blank. -/
theorem behind_connective_unique (gapBefore : IsGap before) (gapAfter : IsGap after)
    (clear : ClearOf isBlank rest) (gapBefore' : IsGap before') (gapAfter' : IsGap after')
    (clear' : ClearOf isBlank rest')
    (same : before ++ (connective.letters ++ (after ++ rest)) =
      before' ++ (other.letters ++ (after' ++ rest'))) : rest = rest' := by
  have continues : Continues connective (before ++ (connective.letters ++ (after ++ rest))) :=
    ⟨before, after, rest, gapBefore, gapAfter, rfl⟩
  obtain rfl : connective = other :=
    Continues.unique continues ⟨before', after', rest', gapBefore', gapAfter', same⟩
  obtain ⟨-, sameLetters⟩ := gap_append_inj gapBefore gapBefore'
    (clearOf_isBlank_of_letters connective _) (clearOf_isBlank_of_letters connective _) same
  exact (gap_append_inj gapAfter gapAfter' clear clear' (List.append_cancel_left sameLetters)).2

end Followed

/-- Where no relation is read, no condition is read, and the fault is the same. -/
theorem refuses_condition {countable : Bool} {text : List Char} {latest : Option Fault}
    (refused : Refuses (relation countable) text latest) (levels : Nat) :
    Refuses (condition countable (levels + 1)) text latest := by
  have alone : Refuses (do let only ← relation countable; accept (Condition.relation only)) text
      latest := refused.bind
  have noJoined (connective : Connective) (rest : Reader Condition) :
      Refuses (joined countable connective rest) text latest := refused.bind.logged
  have allRefused := (noJoined .both (condition countable levels)).orElse
    ((noJoined .either (condition countable levels)).orElse alone)
  rw [Option.or_self, Option.or_self] at allRefused
  exact (reduces_nested _ _).refuses allRefused

/-- To show something of every reading, show it of the one that has no level left
and of the three courses that any other can take. -/
@[elab_as_elim]
theorem course_induction {motive : Nat → List Char → Prop} (levels : Nat) (text : List Char)
    (exhausted : ∀ text, motive 0 text)
    (refused : ∀ levels text latest, Refuses (relation true) text latest →
      motive (levels + 1) text)
    (alone : ∀ levels text only rest, Takes (relation true) text only rest →
      (∀ connective, ¬ Continues connective rest) → motive (levels + 1) text)
    (followed : ∀ levels text first before connective after remaining,
      Takes (relation true) text first
        (before ++ (Connective.letters connective ++ (after ++ remaining))) →
      IsGap before → IsGap after → ClearOf isBlank remaining → motive levels remaining →
      motive (levels + 1) text) :
    motive levels text := by
  induction levels generalizing text with
  | zero => exact exhausted text
  | succ levels ih =>
      rcases takes_or_refuses true text with ⟨only, rest, taken⟩ | ⟨latest, isRefused⟩
      · rcases followed_or_not rest with unfollowed |
          ⟨connective, before, after, remaining, gapBefore, gapAfter, clear, rfl⟩
        · exact alone levels text only rest taken unfollowed
        · exact followed levels text only before connective after remaining taken gapBefore
            gapAfter clear (ih remaining)
      · exact refused levels text latest isRefused

/-- As many blocks as there are levels stop the reading, whatever follows them. -/
theorem tooDeep_of_blocks {count : Nat} {run : List Char} (blocks : Blocks count run)
    (rest : List Char) (offset : Nat) :
    (condition true count ⟨offset, run ++ rest⟩).ending = .tooDeep := by
  induction blocks generalizing offset with
  | nil => rfl
  | @cons first count relation before after others firstSpelled permitted gapBefore connective
      gapAfter blocks ih =>
      have taken := takes_relation firstSpelled permitted
        (gapBefore.clearOf_isDigit (connective.letters ++ (after ++ (others ++ rest))))
      have continues : Continues connective
          (before ++ (connective.letters ++ (after ++ (others ++ rest)))) :=
        ⟨before, after, _, gapBefore, gapAfter, rfl⟩
      simp only [List.append_assoc]
      generalize isTail : before ++ (connective.letters ++ (after ++ (others ++ rest))) = tail
        at taken continues ⊢
      rcases followed_or_not tail with unfollowed |
        ⟨_, _, _, remaining, gapBefore', gapAfter', clear, rfl⟩
      · exact absurd continues (unfollowed connective)
      rw [(condition_of_connective taken gapBefore' gapAfter' clear count offset).1,
        Ending.behind_eq_tooDeep_iff]
      -- Blanks behind the last block belong to its gap, so only an earlier block says what follows.
      cases count with
      | zero => rfl
      | succ count =>
          obtain rfl := behind_connective_unique gapBefore gapAfter (blocks.clearOf_isBlank rest)
            gapBefore' gapAfter' clear isTail
          exact ih _

/-- The reading stops exactly where the text starts with as many blocks as there are
levels. -/
theorem condition_tooDeep_iff (levels : Nat) (text : List Char) (offset : Nat) :
    (condition true levels ⟨offset, text⟩).ending = .tooDeep ↔
      ∃ run, Blocks levels run ∧ run <+: text := by
  constructor
  · induction levels, text using course_induction generalizing offset with
    | exhausted text => exact fun _ => ⟨[], .nil, List.nil_prefix⟩
    | refused levels text latest refused =>
        intro stopped
        exact nomatch ((refuses_condition refused levels).ending offset).symm.trans stopped
    | alone levels text only rest taken unfollowed =>
        intro stopped
        have accepted := (takes_condition_of_relation taken unfollowed levels).ending offset
        exact nomatch accepted.symm.trans stopped
    | followed levels text first before connective after remaining taken gapBefore gapAfter clear
        ih =>
        intro stopped
        rw [(condition_of_connective taken gapBefore gapAfter clear levels offset).1,
          Ending.behind_eq_tooDeep_iff] at stopped
        obtain ⟨run, blocks, rest, rfl⟩ := ih _ stopped
        obtain ⟨relation, spelled, permitted, rfl⟩ := spelled_of_takes taken
        exact ⟨_, .cons spelled permitted gapBefore connective gapAfter blocks, rest, by simp⟩
  · rintro ⟨run, blocks, rest, rfl⟩
    exact tooDeep_of_blocks blocks rest offset

/-- A reading that is stopped has met no fault. -/
theorem fault_of_tooDeep {levels : Nat} {text : List Char} {offset : Nat}
    (stopped : (condition true levels ⟨offset, text⟩).ending = .tooDeep) :
    (condition true levels ⟨offset, text⟩).fault = none := by
  induction levels, text using course_induction generalizing offset with
  | exhausted text => rfl
  | refused levels text latest refused =>
      exact nomatch ((refuses_condition refused levels).ending offset).symm.trans stopped
  | alone levels text only rest taken unfollowed =>
      exact (takes_condition_of_relation taken unfollowed levels).fault offset
  | followed levels text first before connective after remaining taken gapBefore gapAfter clear
      ih =>
      obtain ⟨ending, fault⟩ :=
        condition_of_connective taken gapBefore gapAfter clear levels offset
      rw [ending, Ending.behind_eq_tooDeep_iff] at stopped
      exact fault.trans (ih stopped)

end Reader

end PluralForms.Rule
