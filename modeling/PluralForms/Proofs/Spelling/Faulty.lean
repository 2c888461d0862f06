/-
# Spelled correctly and yet refused

Three things are refused although nothing is wrong with their spelling: the word
for the count where there is none, a divisor of zero, and an interval with too
many members.  This module says which texts have one of them where a relation
starts, and that a relation is refused there with just this fault.

What stands further on does not matter, and neither does the order in which the
forms of a relation are tried: only one of them ever reaches the fault, and the
others are refused without one.  A spelling is therefore either read, perhaps with
more digits than it has itself, or it is refused with a fault.
-/

import PluralForms.Proofs.Spelling.Complete

namespace PluralForms.Rule

open Text

/-- What the text starts with would be a relation, but for this fault.  The first
parameter says whether there is a count.  Numerals have all the digits that are
ahead, as many as fit into one. -/
inductive FaultyStart : Bool → List Char → Fault → Prop
  | noCount (rest : List Char) : FaultyStart false ('n' :: rest) .noCount
  | zeroDivisor {before after digits rest : List Char} (gapBefore : IsGap before)
      (gapAfter : IsGap after) (numeral : IsNumeral 0 digits) (longest : Longest digits rest) :
      FaultyStart true ('n' :: (before ++ (['m', 'o', 'd'] ++ (after ++ (digits ++ rest)))))
        .zeroDivisor
  | membership {subject : Expression} {denied : Bool} {first last : Nat}
      {expression denial before after firstDigits lastDigits rest : List Char}
      (subjectSpelled : subject.SpelledBy expression) (permitted : subject.Permitted)
      (denialSpelled : DenialSpelledBy denied denial) (gapBefore : IsGap before)
      (gapAfter : IsGap after) (firstNumeral : IsNumeral first firstDigits)
      (lastNumeral : IsNumeral last lastDigits) (longest : Longest lastDigits rest)
      (oversized : ¬ (Interval.mk first last).Permitted) :
      FaultyStart true
        (expression ++ (denial ++ (before ++ (['i', 'n'] ++
          (after ++ (firstDigits ++ (['.', '.'] ++ (lastDigits ++ rest))))))))
        (.oversized ⟨first, last⟩)
  | within {subject : Expression} {first last : Nat}
      {expression before after firstDigits lastDigits rest : List Char}
      (subjectSpelled : subject.SpelledBy expression) (permitted : subject.Permitted)
      (gapBefore : IsGap before) (gapAfter : IsGap after)
      (firstNumeral : IsNumeral first firstDigits) (lastNumeral : IsNumeral last lastDigits)
      (longest : Longest lastDigits rest) (oversized : ¬ (Interval.mk first last).Permitted) :
      FaultyStart true
        (expression ++ (before ++ (['w', 'i', 't', 'h', 'i', 'n'] ++
          (after ++ (firstDigits ++ (['.', '.'] ++ (lastDigits ++ rest)))))))
        (.oversized ⟨first, last⟩)

namespace FaultyStart

variable {countable : Bool} {text : List Char} {fault : Fault}

/-- Whatever the fault is, the text starts with the letter of the count. -/
theorem exists_cons (faulty : FaultyStart countable text fault) : ∃ tail, text = 'n' :: tail := by
  cases faulty with
  | noCount rest => exact ⟨rest, rfl⟩
  | zeroDivisor => exact ⟨_, rfl⟩
  | membership subjectSpelled =>
    obtain ⟨tail, rfl⟩ := subjectSpelled.exists_cons
    exact ⟨_, rfl⟩
  | within subjectSpelled =>
    obtain ⟨tail, rfl⟩ := subjectSpelled.exists_cons
    exact ⟨_, rfl⟩

theorem clearOf_isBlank (faulty : FaultyStart countable text fault) : ClearOf isBlank text := by
  obtain ⟨tail, rfl⟩ := faulty.exists_cons
  exact clearOf_cons.2 (by decide)

/-- An expression that is spelled but not permitted divides by zero. -/
theorem of_expression {subject : Expression} {expression rest : List Char}
    (spelled : subject.SpelledBy expression) (forbidden : ¬ subject.Permitted)
    (clear : ClearOf Char.isDigit rest) : FaultyStart true (expression ++ rest) .zeroDivisor := by
  cases spelled with
  | count => exact absurd trivial forbidden
  | @remainder before after digits divisor gapBefore gapAfter numeral =>
    obtain rfl : divisor = 0 := not_not.1 forbidden
    simpa only [List.append_assoc, List.cons_append, List.nil_append] using
      zeroDivisor gapBefore gapAfter numeral (Or.inr clear)

/-- A relation that is spelled but not permitted is a fault in front of any text that
does not go on with a digit. -/
theorem of_relation {only : Relation} {relation rest : List Char}
    (spelled : only.SpelledBy relation) (forbidden : ¬ only.Permitted)
    (clear : ClearOf Char.isDigit rest) : ∃ fault, FaultyStart true (relation ++ rest) fault := by
  cases spelled with
  | equality subjectSpelled gapBefore denialSpelled gapAfter numeral =>
    simp only [List.append_assoc]
    exact ⟨_, of_expression subjectSpelled forbidden (gapBefore.clearOf_isDigit _)⟩
  | @membership subject _ _ _ _ before _ _ subjectSpelled denialSpelled gapBefore gapAfter
      intervalSpelled =>
    cases intervalSpelled with
    | bounds firstNumeral lastNumeral =>
      simp only [List.append_assoc]
      by_cases permitted : subject.Permitted
      · exact ⟨_, membership subjectSpelled permitted denialSpelled gapBefore gapAfter firstNumeral
          lastNumeral (Or.inr clear) fun fits => forbidden ⟨permitted, fits⟩⟩
      · refine ⟨_, of_expression subjectSpelled permitted ?_⟩
        obtain ⟨gap, tail, isGap, same, -⟩ :=
          Reader.exists_gap_of_denial denialSpelled gapBefore _
        rw [same]
        exact isGap.clearOf_isDigit tail
  | @within subject _ _ _ _ _ subjectSpelled gapBefore gapAfter intervalSpelled =>
    cases intervalSpelled with
    | bounds firstNumeral lastNumeral =>
      simp only [List.append_assoc]
      by_cases permitted : subject.Permitted
      · exact ⟨_, within subjectSpelled permitted gapBefore gapAfter firstNumeral lastNumeral
          (Or.inr clear) fun fits => forbidden ⟨permitted, fits⟩⟩
      · exact ⟨_, of_expression subjectSpelled permitted (gapBefore.clearOf_isDigit _)⟩

end FaultyStart

namespace Reader

/-- Without a count, the word for it is refused. -/
theorem refuses_expression_uncountable (rest : List Char) :
    Refuses (expression false) ('n' :: rest) (some .noCount) := by
  have refused : Refuses (count false) ('n' :: rest) (some .noCount) := by
    apply Refuses.logged
    apply (takes_word .count rest).bind_refuses
    rw [if_neg Bool.false_ne_true]
    exact refuses_reject _ _
  exact refused.bind.logged.orElse refused

section ZeroDivisor

variable {before after digits rest : List Char}
variable (gapBefore : IsGap before) (gapAfter : IsGap after) (numeral : IsNumeral 0 digits)
variable (longest : Longest digits rest)

include gapBefore gapAfter numeral longest

/-- Behind an expression with a divisor of zero, what would have to follow is
looked for behind the bare count, where the word `mod` is not it. -/
theorem refuses_expression_bind {α : Type} {next : Expression → Reader α}
    (refused : Refuses (next .count)
      (before ++ (['m', 'o', 'd'] ++ (after ++ (digits ++ rest)))) none) :
    Refuses (expression true >>= next)
      ('n' :: (before ++ (['m', 'o', 'd'] ++ (after ++ (digits ++ rest)))))
      (some .zeroDivisor) := by
  have noRemainder := reduces_remainder gapBefore gapAfter numeral longest
  rw [if_pos rfl] at noRemainder
  exact (noRemainder.refuses (refuses_reject _ _)).orElse_bind
    ((takes_count _).bind_refuses refused)

theorem refuses_relation_of_zeroDivisor :
    Refuses (relation true) ('n' :: (before ++ (['m', 'o', 'd'] ++ (after ++ (digits ++ rest)))))
      (some .zeroDivisor) := by
  have clear : ClearOf isBlank (['m', 'o', 'd'] ++ (after ++ (digits ++ rest))) :=
    clearOf_isBlank_word .modulo _
  have noEquality : Refuses (equality true) _ (some .zeroDivisor) :=
    (refuses_expression_bind gapBefore gapAfter numeral longest
      (refuses_spaced gapBefore clear .equals (by simp [Word.letters]) _)).logged
  have noMembership : Refuses (membership true) _ (some .zeroDivisor) :=
    (refuses_expression_bind gapBefore gapAfter numeral longest
      ((takes_denial .absent gapBefore clear (by simp)).bind_refuses
        (refuses_spaced gapBefore clear .member (by simp [Word.letters]) _))).logged
  have noWithin : Refuses (within true) _ (some .zeroDivisor) :=
    (refuses_expression_bind gapBefore gapAfter numeral longest
      (refuses_spaced gapBefore clear .within (by simp [Word.letters]) _)).logged
  exact noEquality.orElse (noMembership.orElse noWithin)

end ZeroDivisor

/-- No relation is read where a text starts with a fault, and the fault is the
one that is left. -/
theorem refuses_relation_of_faulty {countable : Bool} {text : List Char} {fault : Fault}
    (faulty : FaultyStart countable text fault) :
    Refuses (relation countable) text (some fault) := by
  cases faulty with
  | noCount rest =>
    have noEquality : Refuses (equality false) _ _ :=
      (refuses_expression_uncountable rest).bind.logged
    have noMembership : Refuses (membership false) _ _ :=
      (refuses_expression_uncountable rest).bind.logged
    have noWithin : Refuses (within false) _ _ :=
      (refuses_expression_uncountable rest).bind.logged
    exact noEquality.orElse (noMembership.orElse noWithin)
  | zeroDivisor gapBefore gapAfter numeral longest =>
    exact refuses_relation_of_zeroDivisor gapBefore gapAfter numeral longest
  | membership subjectSpelled permitted denialSpelled gapBefore gapAfter firstNumeral lastNumeral
      longest oversized =>
    obtain ⟨noEquality, noWithin⟩ :=
      refuses_others_of_membership subjectSpelled permitted denialSpelled gapBefore _
    have noInterval := refuses_interval firstNumeral lastNumeral longest oversized
    have noMembership := (reduces_membership subjectSpelled permitted denialSpelled gapBefore
      gapAfter (firstNumeral.clearOf_isBlank _)).refuses noInterval.bind
    exact noEquality.orElse (noMembership.orElse noWithin)
  | within subjectSpelled permitted gapBefore gapAfter firstNumeral lastNumeral longest
      oversized =>
    obtain ⟨noEquality, noMembership⟩ :=
      refuses_others_of_within subjectSpelled permitted gapBefore _
    have noInterval := refuses_interval firstNumeral lastNumeral longest oversized
    have noWithin := (reduces_within subjectSpelled permitted gapBefore gapAfter
      (firstNumeral.clearOf_isBlank _)).refuses noInterval.bind
    exact noEquality.orElse (noMembership.orElse noWithin)

/-- A spelling of a permitted relation is read with whatever digits continue it, or
these make its interval too large. -/
theorem takes_or_faulty {only : Relation} {text : List Char} (spelled : only.SpelledBy text)
    (permitted : only.Permitted) (rest : List Char) :
    (∃ grown more remaining, rest = more ++ remaining ∧
      Takes (relation true) (text ++ rest) grown remaining) ∨
    ∃ fault, FaultyStart true (text ++ rest) fault := by
  cases spelled with
  | equality subjectSpelled gapBefore denialSpelled gapAfter numeral =>
    obtain ⟨more, remaining, value, rfl, grown, longest⟩ := numeral.exists_longest rest
    have taken := takes_equality subjectSpelled permitted gapBefore denialSpelled gapAfter grown
      longest
    simp only [List.append_assoc] at taken ⊢
    exact .inl ⟨_, more, remaining, rfl, taken⟩
  | membership subjectSpelled denialSpelled gapBefore gapAfter intervalSpelled =>
    cases intervalSpelled with
    | @bounds first _ _ _ firstNumeral lastNumeral =>
      obtain ⟨more, remaining, last, rfl, grown, longest⟩ := lastNumeral.exists_longest rest
      simp only [List.append_assoc]
      by_cases fits : (Interval.mk first last).Permitted
      · have taken := takes_membership subjectSpelled permitted.1 denialSpelled gapBefore gapAfter
          firstNumeral grown longest fits
        simp only [List.append_assoc] at taken
        exact .inl ⟨_, more, remaining, rfl, taken⟩
      · have faulty := FaultyStart.membership subjectSpelled permitted.1 denialSpelled gapBefore
          gapAfter firstNumeral grown longest fits
        simp only [List.append_assoc] at faulty
        exact .inr ⟨_, faulty⟩
  | within subjectSpelled gapBefore gapAfter intervalSpelled =>
    cases intervalSpelled with
    | @bounds first _ _ _ firstNumeral lastNumeral =>
      obtain ⟨more, remaining, last, rfl, grown, longest⟩ := lastNumeral.exists_longest rest
      simp only [List.append_assoc]
      by_cases fits : (Interval.mk first last).Permitted
      · have taken := takes_within subjectSpelled permitted.1 gapBefore gapAfter firstNumeral
          grown longest fits
        simp only [List.append_assoc] at taken
        exact .inl ⟨_, more, remaining, rfl, taken⟩
      · have faulty := FaultyStart.within subjectSpelled permitted.1 gapBefore gapAfter
          firstNumeral grown longest fits
        simp only [List.append_assoc] at faulty
        exact .inr ⟨_, faulty⟩

end Reader

end PluralForms.Rule
