/-
# Whatever is read is spelled

The converse of completeness: the text that a reader of the grammar moves its
head over spells what it accepts, and what it accepts is permitted.  The
argument follows each rule of the grammar from word to word and puts the texts
of the words together again.
-/

import PluralForms.Proofs.Reader.Token
import PluralForms.Rule.Reading

namespace PluralForms.Rule.Reader

variable {countable : Bool} {head moved : Head}

theorem letters_connectiveWord (connective : Connective) :
    (connectiveWord connective).letters = connective.letters := by
  cases connective <;> rfl

theorem passes_of_count {subject : Expression}
    (accepted : (count countable head).ending = .accepted subject moved) :
    subject = .count ∧ head.Passes ['n'] moved := by
  rw [count, ending_logged, bind_accepted_iff] at accepted
  obtain ⟨_, between, wordRead, finished⟩ := accepted
  have passes := word_accepted_iff.1 wordRead
  cases countable with
  | false => cases finished
  | true =>
      cases finished
      exact ⟨rfl, passes⟩

theorem spelled_of_remainder {subject : Expression}
    (accepted : (remainder countable head).ending = .accepted subject moved) :
    ∃ text, subject.SpelledBy text ∧ subject.Permitted ∧ head.Passes text moved := by
  rw [remainder, ending_logged, bind_accepted_iff] at accepted
  obtain ⟨_, _, countRead, accepted⟩ := accepted
  obtain ⟨before, after, _, gapBefore, gapAfter, passesWord, accepted⟩ :=
    exists_gaps_of_spaced accepted
  obtain ⟨divisor, _, numeralRead, accepted⟩ := bind_accepted_iff.1 accepted
  obtain ⟨-, passesCount⟩ := passes_of_count countRead
  obtain ⟨digits, numeral, -, passesDigits⟩ := numeral_accepted_iff.1 numeralRead
  split at accepted
  · cases accepted
  · rename_i nonzero
    cases accepted
    have passes := (passesCount.trans passesWord).trans passesDigits
    exact ⟨_, .remainder gapBefore gapAfter numeral, nonzero, by simpa [Word.letters] using passes⟩

/-- An expression that is read is spelled and permitted. -/
theorem spelled_of_expression {subject : Expression}
    (accepted : (expression countable head).ending = .accepted subject moved) :
    ∃ text, subject.SpelledBy text ∧ subject.Permitted ∧ head.Passes text moved := by
  rcases orElse_accepted_iff.1 accepted with remainderRead | ⟨-, countRead⟩
  · exact spelled_of_remainder remainderRead
  · obtain ⟨rfl, passes⟩ := passes_of_count countRead
    exact ⟨_, .count, trivial, passes⟩

theorem spelled_of_interval {bounds : Interval}
    (accepted : (interval head).ending = .accepted bounds moved) :
    ∃ text, bounds.SpelledBy text ∧ bounds.Permitted ∧ head.Passes text moved := by
  rw [interval, ending_logged, bind_accepted_iff] at accepted
  obtain ⟨first, _, firstRead, accepted⟩ := accepted
  obtain ⟨_, _, wordRead, accepted⟩ := bind_accepted_iff.1 accepted
  obtain ⟨last, _, lastRead, accepted⟩ := bind_accepted_iff.1 accepted
  obtain ⟨_, firstNumeral, -, passesFirst⟩ := numeral_accepted_iff.1 firstRead
  obtain ⟨_, lastNumeral, -, passesLast⟩ := numeral_accepted_iff.1 lastRead
  split at accepted
  · cases accepted
  · rename_i fits
    cases accepted
    exact ⟨_, .bounds firstNumeral lastNumeral,
      (Interval.permitted_iff _).2 (Nat.not_lt.1 fits),
      (passesFirst.trans (word_accepted_iff.1 wordRead)).trans passesLast⟩

theorem spelled_of_denial {denied : Bool}
    (accepted : (denial head).ending = .accepted denied moved) :
    ∃ text, DenialSpelledBy denied text ∧ head.Passes text moved := by
  rcases orElse_accepted_iff.1 accepted with present | ⟨-, absent⟩
  · obtain ⟨_, _, gapRead, present⟩ := bind_accepted_iff.1 present
    obtain ⟨_, _, wordRead, finished⟩ := bind_accepted_iff.1 present
    cases finished
    obtain ⟨_, gapBefore, -, passes⟩ := blanks_accepted_iff.1 gapRead
    exact ⟨_, .present gapBefore, passes.trans (word_accepted_iff.1 wordRead)⟩
  · cases absent
    exact ⟨_, .absent, Head.Passes.refl head⟩

theorem spelled_of_equality {only : Relation}
    (accepted : (equality countable head).ending = .accepted only moved) :
    ∃ text, only.SpelledBy text ∧ only.Permitted ∧ head.Passes text moved := by
  rw [equality, ending_logged, bind_accepted_iff] at accepted
  obtain ⟨_, _, subjectRead, accepted⟩ := accepted
  obtain ⟨_, _, gapRead, accepted⟩ := bind_accepted_iff.1 accepted
  obtain ⟨_, _, wordRead, accepted⟩ := bind_accepted_iff.1 accepted
  obtain ⟨_, _, denialRead, accepted⟩ := bind_accepted_iff.1 accepted
  obtain ⟨_, _, gapRead', accepted⟩ := bind_accepted_iff.1 accepted
  obtain ⟨_, _, numeralRead, finished⟩ := bind_accepted_iff.1 accepted
  obtain ⟨_, subjectSpelled, permitted, passesSubject⟩ := spelled_of_expression subjectRead
  obtain ⟨_, gapBefore, -, passesBefore⟩ := blanks_accepted_iff.1 gapRead
  obtain ⟨_, denialSpelled, passesDenial⟩ := spelled_of_denial denialRead
  obtain ⟨_, gapAfter, -, passesAfter⟩ := blanks_accepted_iff.1 gapRead'
  obtain ⟨_, numeral, -, passesDigits⟩ := numeral_accepted_iff.1 numeralRead
  cases finished
  exact ⟨_, .equality subjectSpelled gapBefore denialSpelled gapAfter numeral, permitted,
    ((((passesSubject.trans passesBefore).trans (word_accepted_iff.1 wordRead)).trans
      passesDenial).trans passesAfter).trans passesDigits⟩

theorem spelled_of_membership {only : Relation}
    (accepted : (membership countable head).ending = .accepted only moved) :
    ∃ text, only.SpelledBy text ∧ only.Permitted ∧ head.Passes text moved := by
  rw [membership, ending_logged, bind_accepted_iff] at accepted
  obtain ⟨_, _, subjectRead, accepted⟩ := accepted
  obtain ⟨_, _, denialRead, accepted⟩ := bind_accepted_iff.1 accepted
  obtain ⟨_, _, _, gapBefore, gapAfter, passesWord, accepted⟩ := exists_gaps_of_spaced accepted
  obtain ⟨_, _, intervalRead, finished⟩ := bind_accepted_iff.1 accepted
  obtain ⟨_, subjectSpelled, permitted, passesSubject⟩ := spelled_of_expression subjectRead
  obtain ⟨_, denialSpelled, passesDenial⟩ := spelled_of_denial denialRead
  obtain ⟨_, intervalSpelled, fits, passesBounds⟩ := spelled_of_interval intervalRead
  cases finished
  have passes := ((passesSubject.trans passesDenial).trans passesWord).trans passesBounds
  exact ⟨_, .membership subjectSpelled denialSpelled gapBefore gapAfter intervalSpelled,
    ⟨permitted, fits⟩, by simpa [Word.letters] using passes⟩

theorem spelled_of_within {only : Relation}
    (accepted : (within countable head).ending = .accepted only moved) :
    ∃ text, only.SpelledBy text ∧ only.Permitted ∧ head.Passes text moved := by
  rw [within, ending_logged, bind_accepted_iff] at accepted
  obtain ⟨_, _, subjectRead, accepted⟩ := accepted
  obtain ⟨_, _, _, gapBefore, gapAfter, passesWord, accepted⟩ := exists_gaps_of_spaced accepted
  obtain ⟨_, _, intervalRead, finished⟩ := bind_accepted_iff.1 accepted
  obtain ⟨_, subjectSpelled, permitted, passesSubject⟩ := spelled_of_expression subjectRead
  obtain ⟨_, intervalSpelled, fits, passesBounds⟩ := spelled_of_interval intervalRead
  cases finished
  have passes := (passesSubject.trans passesWord).trans passesBounds
  exact ⟨_, .within subjectSpelled gapBefore gapAfter intervalSpelled, ⟨permitted, fits⟩,
    by simpa [Word.letters] using passes⟩

/-- A relation that is read is spelled and permitted. -/
theorem spelled_of_relation {only : Relation}
    (accepted : (relation countable head).ending = .accepted only moved) :
    ∃ text, only.SpelledBy text ∧ only.Permitted ∧ head.Passes text moved := by
  rcases orElse_accepted_iff.1 accepted with equalityRead | ⟨-, accepted⟩
  · exact spelled_of_equality equalityRead
  rcases orElse_accepted_iff.1 accepted with membershipRead | ⟨-, withinRead⟩
  · exact spelled_of_membership membershipRead
  · exact spelled_of_within withinRead

/-- A chain that is read consists of a relation, its connective between gaps,
and a chain that is read behind them. -/
theorem spelled_of_joined {connective : Connective} {next : Reader Condition} {chain : Condition}
    (accepted : (joined countable connective next head).ending = .accepted chain moved) :
    ∃ first rest text behind, chain = .joined first connective rest ∧ first.Permitted ∧
      (next behind).ending = .accepted rest moved ∧ head.Passes text behind ∧
      ∀ remaining, rest.SpelledBy remaining → chain.SpelledBy (text ++ remaining) := by
  rw [joined, ending_logged, bind_accepted_iff] at accepted
  obtain ⟨first, _, relationRead, accepted⟩ := accepted
  obtain ⟨before, after, behind, gapBefore, gapAfter, passesWord, accepted⟩ :=
    exists_gaps_of_spaced accepted
  obtain ⟨rest, _, restRead, finished⟩ := bind_accepted_iff.1 accepted
  obtain ⟨text, firstSpelled, permitted, passesFirst⟩ := spelled_of_relation relationRead
  rw [letters_connectiveWord] at passesWord
  cases finished
  have spells (remaining : List Char) (restSpelled : rest.SpelledBy remaining) :
      (Condition.joined first connective rest).SpelledBy
        (text ++ (before ++ (connective.letters ++ after)) ++ remaining) := by
    have whole : (Condition.joined first connective rest).SpelledBy
        (text ++ before ++ connective.letters ++ after ++ remaining) :=
      .joined firstSpelled gapBefore gapAfter restSpelled
    simpa using whole
  exact ⟨first, rest, _, behind, rfl, permitted, restRead, passesFirst.trans passesWord, spells⟩

/-- A condition that is read is spelled and permitted, and has at most as many
relations as there are levels. -/
theorem spelled_of_condition {levels : Nat} {chain : Condition}
    (accepted : (condition countable levels head).ending = .accepted chain moved) :
    ∃ text, chain.SpelledBy text ∧ chain.Permitted ∧ chain.relations.length ≤ levels ∧
      head.Passes text moved := by
  induction levels generalizing head moved chain with
  | zero => cases accepted
  | succ levels ih =>
      have ofJoined {connective : Connective}
          (accepted : (joined countable connective (condition countable levels) head).ending =
            .accepted chain moved) :
          ∃ text, chain.SpelledBy text ∧ chain.Permitted ∧ chain.relations.length ≤ levels + 1 ∧
            head.Passes text moved := by
        obtain ⟨first, rest, text, behind, rfl, permitted, restRead, passes, spells⟩ :=
          spelled_of_joined accepted
        obtain ⟨remaining, restSpelled, restPermitted, short, passesRest⟩ := ih restRead
        exact ⟨text ++ remaining, spells remaining restSpelled,
          Condition.permitted_joined.2 ⟨permitted, restPermitted⟩, Nat.succ_le_succ short,
          passes.trans passesRest⟩
      rcases orElse_accepted_iff.1 accepted with bothRead | ⟨-, accepted⟩
      · exact ofJoined bothRead
      rcases orElse_accepted_iff.1 accepted with eitherRead | ⟨-, aloneRead⟩
      · exact ofJoined eitherRead
      obtain ⟨only, _, relationRead, finished⟩ := bind_accepted_iff.1 aloneRead
      obtain ⟨text, spelled, permitted, passes⟩ := spelled_of_relation relationRead
      cases finished
      exact ⟨text, .relation spelled, Condition.permitted_relation.2 permitted,
        Nat.succ_le_succ (Nat.zero_le levels), passes⟩

end PluralForms.Rule.Reader
