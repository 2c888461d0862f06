/-
# Every spelling is read

A text that spells a permitted condition is read as that condition, whatever
else could be tried on it.  For a relation this is so in front of any text that
does not go on with a digit; for a chain it is so at the end of the rule, as
long as the chain is not longer than the nesting that is allowed.

The ordered choices lose nothing because the alternatives of the grammar part
ways at the first word behind the expression, and each reader that has to fail
does so on that word, without a fault.
-/

import PluralForms.Proofs.Reader.Taking
import PluralForms.Rule.Reading

namespace PluralForms.Rule.Reader

open Text

section Expressions

variable {gap rest : List Char}

theorem takes_count (rest : List Char) : Takes (count true) ('n' :: rest) .count rest := by
  apply Takes.logged
  apply (takes_word .count rest).bind
  rw [if_pos rfl]
  exact takes_accept _ rest

/-- The letter of the count is no remainder unless the word `mod` follows. -/
theorem refuses_remainder (isGap : IsGap gap) (clear : ClearOf isBlank rest)
    (missing : ¬ ['m', 'o', 'd'] <+: rest) :
    Refuses (remainder true) ('n' :: (gap ++ rest)) none :=
  ((takes_count _).bind_refuses (refuses_spaced isGap clear .modulo missing _)).logged

/-- Behind the divisor nothing is left of a remainder but to look at its value. -/
theorem reduces_remainder {before after digits : List Char} {divisor : Nat}
    (gapBefore : IsGap before) (gapAfter : IsGap after) (numeral : IsNumeral divisor digits)
    (longest : Longest digits rest) :
    Reduces (remainder true) ('n' :: (before ++ (['m', 'o', 'd'] ++ (after ++ (digits ++ rest)))))
      (if divisor = 0 then reject .zeroDivisor else accept (.remainder divisor)) rest := by
  apply (reduces_logged _ _ _ _).trans
  apply (takes_count _).reduces_bind.trans
  apply (reduces_spaced gapBefore .modulo gapAfter (numeral.clearOf_isBlank rest) _).trans
  exact (takes_numeral numeral longest).reduces_bind

/-- An expression is read where a gap and some word other than `mod` follow. -/
theorem takes_expression {expression : Expression} {text : List Char}
    (spelled : expression.SpelledBy text) (permitted : expression.Permitted) (isGap : IsGap gap)
    (clear : ClearOf isBlank rest) (missing : ¬ ['m', 'o', 'd'] <+: rest) :
    Takes (Reader.expression true) (text ++ (gap ++ rest)) expression (gap ++ rest) := by
  cases spelled with
  | count => exact (refuses_remainder isGap clear missing).orElse_takes (takes_count _)
  | @remainder before after digits divisor gapBefore gapAfter numeral =>
    have nonzero : divisor ≠ 0 := permitted
    have longest : Longest digits (gap ++ rest) := Or.inr (isGap.clearOf_isDigit rest)
    simp only [List.append_assoc]
    apply Takes.orElse
    apply (reduces_remainder gapBefore gapAfter numeral longest).trans
    rw [if_neg nonzero]
    exact takes_accept _ _

end Expressions

section Intervals

variable {first last : Nat} {firstDigits lastDigits rest : List Char}

/-- Behind its two numerals nothing is left of an interval but to look at its
size. -/
theorem reduces_interval (firstNumeral : IsNumeral first firstDigits)
    (lastNumeral : IsNumeral last lastDigits) (longest : Longest lastDigits rest) :
    Reduces interval (firstDigits ++ (['.', '.'] ++ (lastDigits ++ rest)))
      (if Interval.mostMembers < (Interval.mk first last).size then
        reject (.oversized ⟨first, last⟩) else accept ⟨first, last⟩) rest := by
  have firstLongest : Longest firstDigits (['.', '.'] ++ (lastDigits ++ rest)) :=
    Or.inr (by simp)
  apply (reduces_logged _ _ _ _).trans
  apply (takes_numeral firstNumeral firstLongest).reduces_bind.trans
  apply (takes_word .upTo _).reduces_bind.trans
  exact (takes_numeral lastNumeral longest).reduces_bind

/-- An interval is read if no digit behind it would still be part of it. -/
theorem takes_interval (firstNumeral : IsNumeral first firstDigits)
    (lastNumeral : IsNumeral last lastDigits) (longest : Longest lastDigits rest)
    (permitted : (Interval.mk first last).Permitted) :
    Takes interval (firstDigits ++ (['.', '.'] ++ (lastDigits ++ rest))) ⟨first, last⟩ rest := by
  have fits := Nat.not_lt.2 ((Interval.permitted_iff _).1 permitted)
  have reduced := reduces_interval firstNumeral lastNumeral longest
  rw [if_neg fits] at reduced
  exact reduced

/-- An interval with too many members is refused. -/
theorem refuses_interval (firstNumeral : IsNumeral first firstDigits)
    (lastNumeral : IsNumeral last lastDigits) (longest : Longest lastDigits rest)
    (oversized : ¬ (Interval.mk first last).Permitted) :
    Refuses interval (firstDigits ++ (['.', '.'] ++ (lastDigits ++ rest)))
      (some (.oversized ⟨first, last⟩)) := by
  rw [Interval.permitted_iff, Nat.not_le] at oversized
  have reduced := reduces_interval firstNumeral lastNumeral longest
  rw [if_pos oversized] at reduced
  exact reduced.refuses (refuses_reject _ _)

end Intervals

section Relations

variable {expression gap rest text : List Char} {subject : Expression}

/-- A denial, or its absence, is read where a gap and some word other than `not`
follow. -/
theorem takes_denial {denied : Bool} (spelled : DenialSpelledBy denied text) (isGap : IsGap gap)
    (clear : ClearOf isBlank rest) (missing : ¬ ['n', 'o', 't'] <+: rest) :
    Takes denial (text ++ (gap ++ rest)) denied (gap ++ rest) := by
  cases spelled with
  | absent =>
    exact (refuses_spaced isGap clear .denial missing _).orElse_takes (takes_accept _ _)
  | present gapBefore =>
    simp only [List.append_assoc]
    apply Takes.orElse
    apply (takes_blanks gapBefore (clearOf_isBlank_word .denial _)).bind
    apply (takes_word .denial _).bind
    exact takes_accept _ _

/-- A relation whose word is not `is` is no equality. -/
theorem refuses_equality (spelled : subject.SpelledBy expression) (permitted : subject.Permitted)
    (isGap : IsGap gap) (clear : ClearOf isBlank rest) (noRemainder : ¬ ['m', 'o', 'd'] <+: rest)
    (noEquality : ¬ ['i', 's'] <+: rest) :
    Refuses (equality true) (expression ++ (gap ++ rest)) none :=
  ((takes_expression spelled permitted isGap clear noRemainder).bind_refuses
    (refuses_spaced isGap clear .equals noEquality _)).logged

/-- A relation whose word is neither `not` nor `in` is no membership. -/
theorem refuses_membership (spelled : subject.SpelledBy expression) (permitted : subject.Permitted)
    (isGap : IsGap gap) (clear : ClearOf isBlank rest) (noRemainder : ¬ ['m', 'o', 'd'] <+: rest)
    (noDenial : ¬ ['n', 'o', 't'] <+: rest) (noMembership : ¬ ['i', 'n'] <+: rest) :
    Refuses (membership true) (expression ++ (gap ++ rest)) none :=
  ((takes_expression spelled permitted isGap clear noRemainder).bind_refuses
    ((takes_denial .absent isGap clear noDenial).bind_refuses
      (refuses_spaced isGap clear .member noMembership _))).logged

/-- A relation whose word is not `within` does not say that something lies within
an interval. -/
theorem refuses_within (spelled : subject.SpelledBy expression) (permitted : subject.Permitted)
    (isGap : IsGap gap) (clear : ClearOf isBlank rest) (noRemainder : ¬ ['m', 'o', 'd'] <+: rest)
    (noWithin : ¬ ['w', 'i', 't', 'h', 'i', 'n'] <+: rest) :
    Refuses (within true) (expression ++ (gap ++ rest)) none :=
  ((takes_expression spelled permitted isGap clear noRemainder).bind_refuses
    (refuses_spaced isGap clear .within noWithin _)).logged

/-- Whether it is denied or not, a membership goes on with a gap and a word that
belongs to no other relation. -/
theorem exists_gap_of_denial {denied : Bool} (spelled : DenialSpelledBy denied text)
    (isGap : IsGap gap) (rest : List Char) :
    ∃ before tail, IsGap before ∧ text ++ (gap ++ (['i', 'n'] ++ rest)) = before ++ tail ∧
      ClearOf isBlank tail ∧ ¬ ['m', 'o', 'd'] <+: tail ∧ ¬ ['i', 's'] <+: tail ∧
        ¬ ['w', 'i', 't', 'h', 'i', 'n'] <+: tail := by
  cases spelled with
  | absent =>
    exact ⟨gap, _, isGap, rfl, clearOf_isBlank_word .member rest, by simp, by simp, by simp⟩
  | @present before gapBefore =>
    refine ⟨before, ['n', 'o', 't'] ++ (gap ++ (['i', 'n'] ++ rest)), gapBefore, by simp, ?_⟩
    exact ⟨clearOf_isBlank_word .denial _, by simp, by simp, by simp⟩

section Membership

variable {denied : Bool} {denial before after tail : List Char}
variable (subjectSpelled : subject.SpelledBy expression) (permitted : subject.Permitted)
variable (denialSpelled : DenialSpelledBy denied denial) (gapBefore : IsGap before)

include subjectSpelled permitted denialSpelled gapBefore

/-- A membership is neither an equality nor does it say that something lies
within an interval. -/
theorem refuses_others_of_membership (tail : List Char) :
    Refuses (equality true) (expression ++ (denial ++ (before ++ (['i', 'n'] ++ tail)))) none ∧
      Refuses (within true) (expression ++ (denial ++ (before ++ (['i', 'n'] ++ tail)))) none := by
  obtain ⟨gap, rest, isGap, same, clear, noRemainder, noEquality, noWithin⟩ :=
    exists_gap_of_denial denialSpelled gapBefore tail
  rw [same]
  exact ⟨refuses_equality subjectSpelled permitted isGap clear noRemainder noEquality,
    refuses_within subjectSpelled permitted isGap clear noRemainder noWithin⟩

/-- Behind its word a membership is up to the interval. -/
theorem reduces_membership (gapAfter : IsGap after) (clear : ClearOf isBlank tail) :
    Reduces (membership true)
      (expression ++ (denial ++ (before ++ (['i', 'n'] ++ (after ++ tail)))))
      (interval >>= fun bounds => accept (.membership subject denied bounds)) tail := by
  obtain ⟨gap, rest, isGap, same, clearRest, noRemainder, -, -⟩ :=
    exists_gap_of_denial denialSpelled gapBefore (after ++ tail)
  have taken := takes_expression subjectSpelled permitted isGap clearRest noRemainder
  rw [← same] at taken
  apply (reduces_logged _ _ _ _).trans
  apply taken.reduces_bind.trans
  apply (takes_denial denialSpelled gapBefore (clearOf_isBlank_word .member _)
    (by simp [Word.letters])).reduces_bind.trans
  exact reduces_spaced gapBefore .member gapAfter clear _

end Membership

section Within

variable {before after tail : List Char}
variable (subjectSpelled : subject.SpelledBy expression) (permitted : subject.Permitted)
variable (gapBefore : IsGap before)

include subjectSpelled permitted gapBefore

/-- What says that something lies within an interval is neither an equality nor a
membership. -/
theorem refuses_others_of_within (tail : List Char) :
    Refuses (equality true)
        (expression ++ (before ++ (['w', 'i', 't', 'h', 'i', 'n'] ++ tail))) none ∧
      Refuses (membership true)
        (expression ++ (before ++ (['w', 'i', 't', 'h', 'i', 'n'] ++ tail))) none := by
  have clear : ClearOf isBlank (['w', 'i', 't', 'h', 'i', 'n'] ++ tail) :=
    clearOf_isBlank_word .within _
  exact ⟨refuses_equality subjectSpelled permitted gapBefore clear (by simp) (by simp),
    refuses_membership subjectSpelled permitted gapBefore clear (by simp) (by simp) (by simp)⟩

/-- Behind the word `within` everything is up to the interval. -/
theorem reduces_within (gapAfter : IsGap after) (clear : ClearOf isBlank tail) :
    Reduces (within true)
      (expression ++ (before ++ (['w', 'i', 't', 'h', 'i', 'n'] ++ (after ++ tail))))
      (interval >>= fun bounds => accept (.within subject bounds)) tail := by
  have clearWord : ClearOf isBlank (['w', 'i', 't', 'h', 'i', 'n'] ++ (after ++ tail)) :=
    clearOf_isBlank_word .within _
  apply (reduces_logged _ _ _ _).trans
  apply (takes_expression subjectSpelled permitted gapBefore clearWord (by simp)).reduces_bind.trans
  exact reduces_spaced gapBefore .within gapAfter clear _

end Within

section Longest

variable {first last value : Nat} {denied : Bool}
variable {before denial after digits firstDigits lastDigits : List Char}

/-- An equality is read if no digit behind it would still be part of it. -/
theorem takes_equality (subjectSpelled : subject.SpelledBy expression)
    (permitted : subject.Permitted) (gapBefore : IsGap before)
    (denialSpelled : DenialSpelledBy denied denial) (gapAfter : IsGap after)
    (numeral : IsNumeral value digits) (longest : Longest digits rest) :
    Takes (relation true)
      (expression ++ (before ++ (['i', 's'] ++ (denial ++ (after ++ (digits ++ rest))))))
      (.equality subject denied value) rest := by
  have noLetter : ∀ c : Char, c.isDigit = true → (c == 'n') = false := by
    intro c isDigit
    rw [beq_eq_false_iff_ne]
    rintro rfl
    exact absurd isDigit (by decide)
  have noDenial : ¬ ['n', 'o', 't'] <+: digits ++ rest :=
    not_prefix_of_clearOf rfl (numeral.clearOf noLetter rest)
  have clearWord : ClearOf isBlank (['i', 's'] ++ (denial ++ (after ++ (digits ++ rest)))) :=
    clearOf_isBlank_word .equals _
  apply Takes.orElse
  apply Takes.logged
  apply (takes_expression subjectSpelled permitted gapBefore clearWord (by simp)).bind
  apply (takes_blanks gapBefore clearWord).bind
  apply (takes_word .equals _).bind
  apply (takes_denial denialSpelled gapAfter (numeral.clearOf_isBlank rest) noDenial).bind
  apply (takes_blanks gapAfter (numeral.clearOf_isBlank rest)).bind
  apply (takes_numeral numeral longest).bind
  exact takes_accept _ _

/-- A membership is read if no digit behind it would still be part of it. -/
theorem takes_membership (subjectSpelled : subject.SpelledBy expression)
    (permitted : subject.Permitted) (denialSpelled : DenialSpelledBy denied denial)
    (gapBefore : IsGap before) (gapAfter : IsGap after)
    (firstNumeral : IsNumeral first firstDigits) (lastNumeral : IsNumeral last lastDigits)
    (longest : Longest lastDigits rest) (fits : (Interval.mk first last).Permitted) :
    Takes (relation true)
      (expression ++ (denial ++ (before ++ (['i', 'n'] ++
        (after ++ (firstDigits ++ (['.', '.'] ++ (lastDigits ++ rest))))))))
      (.membership subject denied ⟨first, last⟩) rest := by
  obtain ⟨noEquality, -⟩ :=
    refuses_others_of_membership subjectSpelled permitted denialSpelled gapBefore _
  have clear := firstNumeral.clearOf_isBlank (['.', '.'] ++ (lastDigits ++ rest))
  apply noEquality.orElse_takes
  apply Takes.orElse
  apply (reduces_membership subjectSpelled permitted denialSpelled gapBefore gapAfter clear).trans
  apply (takes_interval firstNumeral lastNumeral longest fits).bind
  exact takes_accept _ _

/-- That something lies within an interval is read if no digit behind it would
still be part of it. -/
theorem takes_within (subjectSpelled : subject.SpelledBy expression)
    (permitted : subject.Permitted) (gapBefore : IsGap before) (gapAfter : IsGap after)
    (firstNumeral : IsNumeral first firstDigits) (lastNumeral : IsNumeral last lastDigits)
    (longest : Longest lastDigits rest) (fits : (Interval.mk first last).Permitted) :
    Takes (relation true)
      (expression ++ (before ++ (['w', 'i', 't', 'h', 'i', 'n'] ++
        (after ++ (firstDigits ++ (['.', '.'] ++ (lastDigits ++ rest)))))))
      (.within subject ⟨first, last⟩) rest := by
  obtain ⟨noEquality, noMembership⟩ :=
    refuses_others_of_within subjectSpelled permitted gapBefore _
  have clear := firstNumeral.clearOf_isBlank (['.', '.'] ++ (lastDigits ++ rest))
  apply noEquality.orElse_takes
  apply noMembership.orElse_takes
  apply (reduces_within subjectSpelled permitted gapBefore gapAfter clear).trans
  apply (takes_interval firstNumeral lastNumeral longest fits).bind
  exact takes_accept _ _

end Longest

/-- A permitted relation is read in front of any text that does not go on with
a digit. -/
theorem takes_relation {only : Relation} (spelled : only.SpelledBy text)
    (permitted : only.Permitted) (clear : ClearOf Char.isDigit rest) :
    Takes (relation true) (text ++ rest) only rest := by
  cases spelled with
  | equality subjectSpelled gapBefore denialSpelled gapAfter numeral =>
    simpa only [List.append_assoc] using takes_equality subjectSpelled permitted gapBefore
      denialSpelled gapAfter numeral (Or.inr clear)
  | membership subjectSpelled denialSpelled gapBefore gapAfter intervalSpelled =>
    cases intervalSpelled with
    | bounds firstNumeral lastNumeral =>
      simpa only [List.append_assoc] using takes_membership subjectSpelled permitted.1
        denialSpelled gapBefore gapAfter firstNumeral lastNumeral (Or.inr clear) permitted.2
  | within subjectSpelled gapBefore gapAfter intervalSpelled =>
    cases intervalSpelled with
    | bounds firstNumeral lastNumeral =>
      simpa only [List.append_assoc] using takes_within subjectSpelled permitted.1 gapBefore
        gapAfter firstNumeral lastNumeral (Or.inr clear) permitted.2

end Relations

end PluralForms.Rule.Reader
