/-
# Level by level

A condition with a level left reads its first relation up to three times.  What it logs is
known from what one reading of this relation logs: either nothing is tried behind a
connective, and both connectives fail and the relation is left alone, or one connective
follows, and the log of the condition behind it stands once, between the messages of the level
itself.  A condition behind a connective that is refused is never tried again, because no
other connective follows the same relation.

So every fact about the log of a reading is shown for one level, and of the whole reading by
induction on the levels.
-/

import PluralForms.Proofs.Reader.Agreement
import PluralForms.Proofs.Spelling.Course
import PluralForms.Proofs.Spelling.Messages

namespace PluralForms.Rule.Reader

open Text

/-- The messages of a level where no condition is tried behind a connective, given those of
its relation. -/
def messagesAlone (tries : List Event) (offset : Nat) : List Event :=
  tries ++ .failed .conjunction offset :: (tries ++ .failed .disjunction offset :: tries)

/-- The messages of a level in front of the condition behind its connective. -/
def messagesInFront (tries : List Event) (offset : Nat) : Connective → List Event
  | .both => tries
  | .either => tries ++ .failed .conjunction offset :: tries

/-- The message of a connective, by what became of the condition behind it.  There is none
while the reading of that condition is being stopped. -/
def connectiveMessage (offset : Nat) (first : Relation) (connective : Connective) :
    Ending Condition → List Event
  | .accepted rest _ =>
      [.passed (connectiveConstruct connective) offset (.truth (.joined first connective rest))]
  | .refused => [.failed (connectiveConstruct connective) offset]
  | .tooDeep => []

/-- The messages of a level that is read once more because the condition behind its connective
was refused. -/
def messagesOfRetry (tries : List Event) (offset : Nat) : Connective → Ending Condition →
    List Event
  | .both, .refused => tries ++ .failed .disjunction offset :: tries
  | .either, .refused => tries
  | _, _ => []

/-- The connective stands between gaps right behind one head, and the other head behind
it. -/
structure StandsBetween (connective : Connective) (moved behind : Head) : Prop where
  exists_gaps : ∃ before after, IsGap before ∧ IsGap after ∧
    moved.Passes (before ++ (connective.letters ++ after)) behind
  clear : ClearOf isBlank behind.ahead

/-- What one level of a reading comes to, given what the next level does. -/
inductive Level (countable : Bool) (next : Reader Condition) (head : Head)
    (whole : Attempt Condition) : Prop
  | alone
      (log_eq : whole.log = .opened head.offset ::
        (messagesAlone (relation countable head).log head.offset ++ [.closed]))
      (ending_eq : whole.ending =
        ((relation countable >>= fun only => accept (.relation only)) head).ending)
  | followed {first : Relation} {connective : Connective} {moved behind : Head}
      (accepted : (relation countable head).ending = .accepted first moved)
      (stands : StandsBetween connective moved behind)
      (log_eq : whole.log = .opened head.offset ::
        (messagesInFront (relation countable head).log head.offset connective ++
          (next behind).log ++
          connectiveMessage head.offset first connective (next behind).ending ++
          messagesOfRetry (relation countable head).log head.offset connective
            (next behind).ending ++ [.closed]))
      (ending_eq : whole.ending = (next behind).ending.behind first connective moved)

/-- What the condition behind a connective makes of the whole, if it is refused where that
condition is. -/
def joinedEnding (first : Relation) (connective : Connective) :
    Ending Condition → Ending Condition
  | .accepted rest head => .accepted (.joined first connective rest) head
  | .refused => .refused
  | .tooDeep => .tooDeep

/-- What is read behind the relation in front of a connective. -/
def joinedBehind (connective : Connective) (next : Reader Condition) (first : Relation) :
    Reader Condition := do
  blanks
  word (connectiveWord connective)
  blanks
  let rest ← next
  accept (.joined first connective rest)

section Joined

variable {countable : Bool} {next : Reader Condition} {head moved behind : Head}
variable {first : Relation} {connective other : Connective}

theorem joined_eq (countable : Bool) (connective : Connective) (next : Reader Condition) :
    joined countable connective next = logged (connectiveConstruct connective) .truth
      (relation countable >>= joinedBehind connective next) := rfl

/-- Where no relation is read, or nothing behind it, a connective fails. -/
theorem joined_of_refused
    (refused : ((relation countable >>= joinedBehind connective next) head).ending = .refused)
    (silent : ((relation countable >>= joinedBehind connective next) head).log =
      (relation countable head).log) :
    (joined countable connective next head).ending = .refused ∧
      (joined countable connective next head).log = (relation countable head).log ++
        [.failed (connectiveConstruct connective) head.offset] := by
  rw [joined_eq, ending_logged, log_logged_of_refused _ _ refused, silent]
  exact ⟨refused, rfl⟩

/-- Behind a connective everything is up to the condition there. -/
theorem joined_of_behind (accepted : (relation countable head).ending = .accepted first moved)
    (same : joinedBehind connective next first moved =
      (next >>= fun rest => accept (Condition.joined first connective rest)) behind) :
    (joined countable connective next head).ending =
        joinedEnding first connective (next behind).ending ∧
      (joined countable connective next head).log = (relation countable head).log ++
        (next behind).log ++ connectiveMessage head.offset first connective
          (next behind).ending := by
  have inside : (relation countable >>= joinedBehind connective next) head =
      (relation countable head).after
        ((next >>= fun rest => accept (Condition.joined first connective rest)) behind) := by
    rw [bind_of_accepted accepted, same]
  rw [joined_eq, ending_logged]
  cases found : (next behind).ending with
  | accepted rest last =>
      have ending : ((relation countable >>= joinedBehind connective next) head).ending =
          .accepted (.joined first connective rest) last := by
        rw [inside, bind_of_accepted found]
        rfl
      refine ⟨ending, ?_⟩
      rw [log_logged_of_accepted _ _ ending, inside, Attempt.after, log_bind_of_accepted found,
        show (accept _ last).log = [] from rfl, List.append_nil]
      rfl
  | refused =>
      have ending : ((relation countable >>= joinedBehind connective next) head).ending =
          .refused := by
        rw [inside, bind_of_refused found]
        rfl
      refine ⟨ending, ?_⟩
      rw [log_logged_of_refused _ _ ending, inside, Attempt.after, log_bind_of_refused found]
      rfl
  | tooDeep =>
      have ending : ((relation countable >>= joinedBehind connective next) head).ending =
          .tooDeep := by
        rw [inside, bind_of_tooDeep found]
        rfl
      refine ⟨ending, ?_⟩
      rw [log_logged_of_tooDeep _ _ ending, inside, Attempt.after, log_bind_of_tooDeep found]
      simp [connectiveMessage]

theorem StandsBetween.continues (stands : StandsBetween connective moved behind) :
    Continues connective moved.ahead := by
  obtain ⟨⟨before, after, gapBefore, gapAfter, ahead_eq, -⟩, -⟩ := stands
  exact ⟨before, after, behind.ahead, gapBefore, gapAfter, by simpa using ahead_eq⟩

/-- Behind a relation a connective fails at once, or it stands there and all depends on the
condition behind it. -/
theorem joined_cases (accepted : (relation countable head).ending = .accepted first moved)
    (connective : Connective) (next : Reader Condition) :
    ((joined countable connective next head).ending = .refused ∧
      (joined countable connective next head).log = (relation countable head).log ++
        [.failed (connectiveConstruct connective) head.offset]) ∨
    ∃ behind, StandsBetween connective moved behind ∧
      (joined countable connective next head).ending =
        joinedEnding first connective (next behind).ending ∧
      (joined countable connective next head).log = (relation countable head).log ++
        (next behind).log ++ connectiveMessage head.offset first connective
          (next behind).ending := by
  rcases spaced_cases (connectiveWord connective)
    (next >>= fun rest => accept (Condition.joined first connective rest)) moved with
    refused | ⟨before, after, behind, gapBefore, gapAfter, clear, passes, same⟩
  · have inside : (relation countable >>= joinedBehind connective next) head =
        (relation countable head).after (refuse moved) := by
      rw [bind_of_accepted accepted]
      exact congrArg _ refused
    left
    apply joined_of_refused
    · rw [inside]
      rfl
    · rw [inside]
      exact List.append_nil _
  · rw [letters_connectiveWord] at passes
    exact .inr ⟨behind, ⟨⟨before, after, gapBefore, gapAfter, passes⟩, clear⟩,
      joined_of_behind accepted same⟩

/-- No other connective follows a relation than the one that stands there, so what is behind that
one is not tried again. -/
theorem joined_of_other (accepted : (relation countable head).ending = .accepted first moved)
    (stands : StandsBetween connective moved behind) (next : Reader Condition)
    (differs : other ≠ connective) :
    (joined countable other next head).ending = .refused ∧
      (joined countable other next head).log = (relation countable head).log ++
        [.failed (connectiveConstruct other) head.offset] := by
  rcases joined_cases accepted other next with refused | ⟨_, standsToo, -⟩
  · exact refused
  · exact absurd (Continues.unique standsToo.continues stands.continues) differs

/-- A relation that is left alone is read once more and logs nothing else. -/
theorem log_alone (countable : Bool) (head : Head) :
    ((relation countable >>= fun only => accept (Condition.relation only)) head).log =
      (relation countable head).log := by
  cases found : (relation countable head).ending with
  | accepted only moved =>
      rw [log_bind_of_accepted found]
      exact List.append_nil _
  | refused => exact log_bind_of_refused found
  | tooDeep => exact log_bind_of_tooDeep found

end Joined

/-- Where both connectives fail, the relation is left alone. -/
theorem level_of_alone {countable : Bool} {next : Reader Condition} {head : Head}
    (refused : ∀ connective, (joined countable connective next head).ending = .refused ∧
      (joined countable connective next head).log = (relation countable head).log ++
        [.failed (connectiveConstruct connective) head.offset]) :
    Level countable next head (level countable next head) := by
  obtain ⟨noBoth, logBoth⟩ := refused .both
  obtain ⟨noEither, logEither⟩ := refused .either
  apply Level.alone
  · show Event.opened head.offset :: (_ ++ [Event.closed]) = _
    rw [log_orElse_of_refused noBoth, log_orElse_of_refused noEither, log_alone, logBoth, logEither]
    simp [messagesAlone, connectiveConstruct]
  · rw [level, ending_nested, orElse_of_refused noBoth, Attempt.after, orElse_of_refused noEither,
      Attempt.after]

/-- A connective that stands behind the relation settles the level, unless the condition behind
it is refused: then the relation is read again, and is left alone. -/
theorem orElse_of_joinedEnding {reader second : Reader Condition} {head moved : Head}
    {first : Relation} {connective : Connective} {tries : List Event} {behind : Ending Condition}
    (ending : (reader head).ending = joinedEnding first connective behind)
    (alone : (second head).ending = .accepted (.relation first) moved)
    (retry : (second head).log = messagesOfRetry tries head.offset connective .refused) :
    ((reader <|> second) head).ending = behind.behind first connective moved ∧
      ((reader <|> second) head).log =
        (reader head).log ++ messagesOfRetry tries head.offset connective behind := by
  cases behind with
  | accepted rest last =>
      have nothing : messagesOfRetry tries head.offset connective (.accepted rest last) = [] := by
        cases connective <;> rfl
      rw [orElse_of_accepted ending, ending, nothing, List.append_nil]
      exact ⟨rfl, rfl⟩
  | refused =>
      rw [log_orElse_of_refused ending, orElse_of_refused ending, retry]
      exact ⟨alone, rfl⟩
  | tooDeep =>
      have nothing : messagesOfRetry tries head.offset connective .tooDeep = [] := by
        cases connective <;> rfl
      rw [orElse_of_tooDeep ending, ending, nothing, List.append_nil]
      exact ⟨rfl, rfl⟩

/-- Whatever the text is, and whatever is read behind a connective, a level is read in one of two
ways. -/
theorem level_cases (countable : Bool) (next : Reader Condition) (head : Head) :
    Level countable next head (level countable next head) := by
  cases found : (relation countable head).ending with
  | tooDeep => exact absurd found ((plain_relation countable).settles head)
  | refused =>
      apply level_of_alone
      intro connective
      exact joined_of_refused (by rw [bind_of_refused found]; rfl) (log_bind_of_refused found)
  | accepted first moved =>
      have alone : ((relation countable >>= fun only => accept (Condition.relation only))
          head).ending = .accepted (.relation first) moved := by
        rw [bind_of_accepted found]
        rfl
      rcases joined_cases found .both next with noBoth | ⟨behind, stands, ending, log⟩
      · rcases joined_cases found .either next with noEither | ⟨behind, stands, ending, log⟩
        · apply level_of_alone
          intro connective
          cases connective with
          | both => exact noBoth
          | either => exact noEither
        · obtain ⟨whole, logWhole⟩ := orElse_of_joinedEnding ending alone (log_alone countable head)
          apply Level.followed found stands
          · show Event.opened head.offset :: (_ ++ [Event.closed]) = _
            rw [log_orElse_of_refused noBoth.1, noBoth.2, logWhole, log]
            simp [messagesInFront, connectiveConstruct]
          · rw [level, ending_nested, orElse_of_refused noBoth.1]
            exact whole
      · obtain ⟨noEither, logEither⟩ := joined_of_other found stands next
          (show Connective.either ≠ .both by decide)
        have aloneToo : ((joined countable .either next <|>
            (relation countable >>= fun only => accept (Condition.relation only))) head).ending =
              .accepted (.relation first) moved := by
          rw [orElse_of_refused noEither]
          exact alone
        have logToo : ((joined countable .either next <|>
            (relation countable >>= fun only => accept (Condition.relation only))) head).log =
              messagesOfRetry (relation countable head).log head.offset .both .refused := by
          rw [log_orElse_of_refused noEither, logEither, log_alone]
          simp [messagesOfRetry, connectiveConstruct]
        obtain ⟨whole, logWhole⟩ := orElse_of_joinedEnding ending aloneToo logToo
        apply Level.followed found stands
        · show Event.opened head.offset :: (_ ++ [Event.closed]) = _
          rw [logWhole, log]
          simp [messagesInFront]
        · rw [level, ending_nested]
          exact whole

end PluralForms.Rule.Reader
