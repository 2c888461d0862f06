/-
# What becomes of a relation

Reading a single relation ends in one of two ways, whatever the text is: a relation
is read and no fault is left, or the text is refused.  In the second case the fault
is the one that the text starts with, if it starts with one, and there is no fault
otherwise.

The argument about faults goes through everything that a recorder writes down on
the way.  Since each such fault is one that the text starts with, and a text starts
with one fault at most, it does not matter which of them comes last.
-/

import PluralForms.Proofs.Reader.Grammar
import PluralForms.Proofs.Reader.Plain
import PluralForms.Proofs.Reader.Recording
import PluralForms.Proofs.Spelling.Faulty
import PluralForms.Proofs.Spelling.Sound

namespace PluralForms.Rule

open Text

namespace Reader

section Countable

variable {countable : Bool} {head moved : Head} {subject : Expression}

/-- Without a count, no word for it is read. -/
theorem countable_of_count (accepted : (count countable head).ending = .accepted subject moved) :
    countable = true := by
  rw [count, ending_logged, bind_accepted_iff] at accepted
  obtain ⟨_, _, -, finished⟩ := accepted
  cases countable with
  | true => rfl
  | false => cases finished

theorem countable_of_expression
    (accepted : (expression countable head).ending = .accepted subject moved) :
    countable = true := by
  rcases orElse_accepted_iff.1 accepted with remainderRead | ⟨-, countRead⟩
  · rw [remainder, ending_logged, bind_accepted_iff] at remainderRead
    obtain ⟨_, _, countRead, -⟩ := remainderRead
    exact countable_of_count countRead
  · exact countable_of_count countRead

/-- Whatever is read starts with an expression, so without a count nothing is. -/
theorem countable_of_relation {only : Relation}
    (accepted : (relation countable head).ending = .accepted only moved) :
    countable = true := by
  have ofLogged {construct : Construct} {next : Expression → Reader Relation}
      (accepted : (logged construct relationFinding (expression countable >>= next) head).ending =
        .accepted only moved) : countable = true := by
    rw [ending_logged, bind_accepted_iff] at accepted
    obtain ⟨_, _, subjectRead, -⟩ := accepted
    exact countable_of_expression subjectRead
  rcases orElse_accepted_iff.1 accepted with equalityRead | ⟨-, accepted⟩
  · exact ofLogged equalityRead
  rcases orElse_accepted_iff.1 accepted with membershipRead | ⟨-, withinRead⟩
  · exact ofLogged membershipRead
  · exact ofLogged withinRead

end Countable

end Reader

namespace Recorder

variable {countable : Bool} {head : Head} {fault : Fault}

/-- A fault of the word for the count is that there is none. -/
theorem faulty_of_count (met : fault ∈ (count countable head).faults) :
    FaultyStart countable head.ahead fault := by
  obtain ⟨_, moved, wordRead, met⟩ := mem_faults_quiet_bind.1 met
  have passes := (Reader.word_accepted_iff.1 wordRead).ahead_eq
  cases countable with
  | true => exact absurd met (not_mem_faults_pure _)
  | false =>
      rw [if_neg Bool.false_ne_true] at met
      obtain rfl := mem_faults_reject.1 met
      rw [passes]
      exact .noCount moved.ahead

theorem faulty_of_remainder (met : fault ∈ (remainder countable head).faults) :
    FaultyStart countable head.ahead fault := by
  rcases mem_faults_bind.1 met with metFirst | ⟨subject, moved, countRead, metNext⟩
  · exact faulty_of_count metFirst
  rw [(follows_count countable head).1] at countRead
  obtain rfl := Reader.countable_of_count countRead
  obtain ⟨before, after, behind, gapBefore, gapAfter, -, passesWord, met⟩ :=
    exists_gaps_of_mem_faults metNext
  obtain ⟨divisor, _, numeralRead, met⟩ := mem_faults_quiet_bind.1 met
  obtain ⟨digits, numeral, longest, passesDigits⟩ := Reader.numeral_accepted_iff.1 numeralRead
  split at met
  · rename_i zero
    obtain rfl := mem_faults_reject.1 met
    have passes := ((Reader.passes_of_count countRead).2.trans passesWord).trans passesDigits
    rw [passes.ahead_eq]
    simpa [Word.letters] using FaultyStart.zeroDivisor gapBefore gapAfter (zero ▸ numeral) longest
  · exact absurd met (not_mem_faults_pure _)

theorem faulty_of_expression (met : fault ∈ (expression countable head).faults) :
    FaultyStart countable head.ahead fault := by
  rcases mem_faults_orElse.1 met with met | ⟨-, met⟩
  · exact faulty_of_remainder met
  · exact faulty_of_count met

/-- A fault of an interval is that it has too many members. -/
theorem oversized_of_interval (met : fault ∈ (interval head).faults) :
    ∃ first last firstDigits lastDigits rest, fault = .oversized ⟨first, last⟩ ∧
      IsNumeral first firstDigits ∧ IsNumeral last lastDigits ∧ Longest lastDigits rest ∧
      ¬ (Interval.mk first last).Permitted ∧
      head.ahead = firstDigits ++ (['.', '.'] ++ (lastDigits ++ rest)) := by
  obtain ⟨first, _, firstRead, met⟩ := mem_faults_quiet_bind.1 met
  obtain ⟨_, _, wordRead, met⟩ := mem_faults_quiet_bind.1 met
  obtain ⟨last, moved, lastRead, met⟩ := mem_faults_quiet_bind.1 met
  obtain ⟨firstDigits, firstNumeral, -, passesFirst⟩ := Reader.numeral_accepted_iff.1 firstRead
  obtain ⟨lastDigits, lastNumeral, longest, passesLast⟩ := Reader.numeral_accepted_iff.1 lastRead
  split at met
  · rename_i oversized
    rw [← Nat.not_le, ← Interval.permitted_iff] at oversized
    have passes := (passesFirst.trans (Reader.word_accepted_iff.1 wordRead)).trans passesLast
    exact ⟨first, last, firstDigits, lastDigits, moved.ahead, mem_faults_reject.1 met, firstNumeral,
      lastNumeral, longest, oversized, by simpa [Word.letters] using passes.ahead_eq⟩
  · exact absurd met (not_mem_faults_pure _)

theorem faulty_of_equality (met : fault ∈ (equality countable head).faults) :
    FaultyStart countable head.ahead fault := by
  rcases mem_faults_bind.1 met with met | ⟨subject, moved, -, met⟩
  · exact faulty_of_expression met
  · simp [mem_faults_quiet_bind] at met

theorem faulty_of_membership (met : fault ∈ (membership countable head).faults) :
    FaultyStart countable head.ahead fault := by
  rcases mem_faults_bind.1 met with metFirst | ⟨subject, moved, subjectRead, metNext⟩
  · exact faulty_of_expression metFirst
  rw [(follows_expression countable head).1] at subjectRead
  obtain rfl := Reader.countable_of_expression subjectRead
  obtain ⟨expression, subjectSpelled, permitted, passesSubject⟩ :=
    Reader.spelled_of_expression subjectRead
  obtain ⟨denied, _, denialRead, metNext⟩ := mem_faults_quiet_bind.1 metNext
  obtain ⟨denial, denialSpelled, passesDenial⟩ := Reader.spelled_of_denial denialRead
  obtain ⟨before, after, behind, gapBefore, gapAfter, -, passesWord, met⟩ :=
    exists_gaps_of_mem_faults metNext
  rcases mem_faults_bind.1 met with met | ⟨_, _, -, met⟩
  · obtain ⟨first, last, firstDigits, lastDigits, rest, rfl, firstNumeral, lastNumeral, longest,
      oversized, ahead⟩ := oversized_of_interval met
    have passes := (passesSubject.trans passesDenial).trans passesWord
    rw [passes.ahead_eq, ahead]
    simpa [Word.letters] using FaultyStart.membership subjectSpelled permitted denialSpelled
      gapBefore gapAfter firstNumeral lastNumeral longest oversized
  · exact absurd met (not_mem_faults_pure _)

theorem faulty_of_within (met : fault ∈ (within countable head).faults) :
    FaultyStart countable head.ahead fault := by
  rcases mem_faults_bind.1 met with metFirst | ⟨subject, moved, subjectRead, metNext⟩
  · exact faulty_of_expression metFirst
  rw [(follows_expression countable head).1] at subjectRead
  obtain rfl := Reader.countable_of_expression subjectRead
  obtain ⟨expression, subjectSpelled, permitted, passesSubject⟩ :=
    Reader.spelled_of_expression subjectRead
  obtain ⟨before, after, behind, gapBefore, gapAfter, -, passesWord, met⟩ :=
    exists_gaps_of_mem_faults metNext
  rcases mem_faults_bind.1 met with met | ⟨_, _, -, met⟩
  · obtain ⟨first, last, firstDigits, lastDigits, rest, rfl, firstNumeral, lastNumeral, longest,
      oversized, ahead⟩ := oversized_of_interval met
    rw [(passesSubject.trans passesWord).ahead_eq, ahead]
    simpa [Word.letters] using FaultyStart.within subjectSpelled permitted gapBefore gapAfter
      firstNumeral lastNumeral longest oversized
  · exact absurd met (not_mem_faults_pure _)

/-- Every fault that is met in a relation is one that the text starts with. -/
theorem faulty_of_relation (met : fault ∈ (relation countable head).faults) :
    FaultyStart countable head.ahead fault := by
  rcases mem_faults_orElse.1 met with met | ⟨-, met⟩
  · exact faulty_of_equality met
  rcases mem_faults_orElse.1 met with met | ⟨-, met⟩
  · exact faulty_of_membership met
  · exact faulty_of_within met

end Recorder

namespace Reader

/-- A reader that nests nothing accepts or refuses every text; it never stops. -/
theorem Plain.settles {α : Type} {reader : Reader α} (plain : Plain reader) (head : Head) :
    (reader head).ending ≠ .tooDeep := by
  induction plain generalizing head with
  | accept value => exact nofun
  | reject fault => exact nofun
  | word expected =>
      rw [word_eq]
      split <;> exact nofun
  | blanks =>
      rw [blanks_eq]
      split <;> exact nofun
  | numeral =>
      rw [numeral_eq]
      split <;> exact nofun
  | @bind _ _ first next _ _ ih ihNext =>
      cases found : (first head).ending with
      | accepted value between =>
          rw [bind_of_accepted found]
          exact ihNext value between
      | refused =>
          rw [bind_of_refused found]
          exact nofun
      | tooDeep => exact absurd found (ih head)
  | @orElse _ first second _ _ ih ihToo =>
      cases found : (first head).ending with
      | accepted value between =>
          rw [orElse_of_accepted found]
          exact ih head
      | refused =>
          rw [orElse_of_refused found]
          exact ihToo head
      | tooDeep => exact absurd found (ih head)
  | logged _ construct finding ih =>
      rw [ending_logged]
      exact ih head

section Outcome

variable {countable : Bool} {text : List Char} {latest : Option Fault} {fault : Fault}

/-- The fault that reading a relation leaves is one that the text starts with. -/
theorem faulty_of_fault {head : Head} (left : (relation countable head).fault = some fault) :
    FaultyStart countable head.ahead fault := by
  rw [← (Recorder.follows_relation countable head).2] at left
  exact Recorder.faulty_of_relation (List.mem_of_getLast? left)

/-- A text where no relation is read starts with the fault that is left. -/
theorem Refuses.fault_iff (refused : Refuses (relation countable) text latest) :
    latest = some fault ↔ FaultyStart countable text fault := by
  constructor
  · rintro rfl
    exact faulty_of_fault (refused.fault 0)
  · intro faulty
    exact (refused.fault 0).symm.trans ((refuses_relation_of_faulty faulty).fault 0)

/-- A relation is read without a fault, or the text is refused. -/
theorem takes_or_refuses (countable : Bool) (text : List Char) :
    (∃ only rest, Takes (relation countable) text only rest) ∨
      ∃ latest, Refuses (relation countable) text latest := by
  have elsewhere (offset : Nat) :
      (relation countable ⟨offset, text⟩).ending =
          (relation countable (Head.start text)).ending.shifted offset ∧
        (relation countable ⟨offset, text⟩).fault =
          (relation countable (Head.start text)).fault := by
    have corresponds : Corresponds Eq Eq offset (relation countable) (relation countable) :=
      corresponds_relation fun _ _ => rfl
    obtain ⟨ending, fault⟩ := corresponds (Head.start text)
    rw [show (Head.start text).shifted offset = ⟨offset, text⟩ by
      simp [Head.shifted, Head.start]] at ending fault
    exact ⟨ending.eq_shifted, (eq_of_rel fault).symm⟩
  cases found : (relation countable (Head.start text)).ending with
  | accepted only moved =>
      obtain ⟨part, -, -, passes⟩ := spelled_of_relation found
      have ahead : text = part ++ moved.ahead := passes.ahead_eq
      have faultless : (relation countable (Head.start text)).fault = none := by
        rw [Option.eq_none_iff_forall_ne_some]
        intro fault left
        have refused := (refuses_relation_of_faulty (faulty_of_fault left)).ending 0
        cases found.symm.trans refused
      refine .inl ⟨only, moved.ahead, ⟨part, ahead.symm⟩, ?_, ?_⟩
      · intro offset
        rw [(elsewhere offset).1, found]
        simp [Ending.shifted, Head.shifted, passes.offset_eq, Head.start, ahead, Nat.add_comm]
      · intro offset
        rw [(elsewhere offset).2, faultless]
        rfl
  | refused =>
      refine .inr ⟨_, ?_, fun offset => (elsewhere offset).2⟩
      intro offset
      rw [(elsewhere offset).1, found]
      rfl
  | tooDeep => exact absurd found ((plain_relation countable).settles _)

end Outcome

end Reader

end PluralForms.Rule
