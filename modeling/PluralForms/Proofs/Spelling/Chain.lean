/-
# Reading chains of relations

Reading a condition tries to read its first relation up to three times: in
front of `and`, in front of `or`, and alone.  All three readings of a relation
agree, so the condition is settled by what follows it.  If a connective between
two gaps follows, the outcome is that of the condition behind the connective,
except that a refusal there leaves the first relation standing alone.  If none
follows, the relation is all there is.
-/

import PluralForms.Proofs.Spelling.Complete
import PluralForms.Proofs.Spelling.Sound

namespace PluralForms.Rule

open Text

/-- The text goes on with the connective between two gaps. -/
def Continues (connective : Connective) (text : List Char) : Prop :=
  ∃ before after rest, IsGap before ∧ IsGap after ∧
    text = before ++ (connective.letters ++ (after ++ rest))

/-- What becomes of the ending behind a connective when the first relation is
known: the chain grows by it, or ends with it. -/
def Ending.behind (first : Relation) (connective : Connective) (between : Head) :
    Ending Condition → Ending Condition
  | accepted rest head => accepted (.joined first connective rest) head
  | refused => accepted (.relation first) between
  | tooDeep => tooDeep

/-- No blank stands in front of a spelling. -/
theorem Condition.SpelledBy.clearOf_isBlank {chain : Condition} {text : List Char}
    (spelled : chain.SpelledBy text) (rest : List Char) : ClearOf isBlank (text ++ rest) := by
  obtain ⟨tail, rfl⟩ := spelled.exists_cons
  exact clearOf_cons.2 (by decide)

namespace Reader

variable {connective : Connective} {first : Relation} {next : Reader Condition}
variable {text before after remaining : List Char}

/-- Only one gap starts a text. -/
theorem gap_append_inj {gap other rest rest' : List Char} (isGap : IsGap gap)
    (isOther : IsGap other) (clear : ClearOf isBlank rest) (clear' : ClearOf isBlank rest')
    (same : gap ++ rest = other ++ rest') : gap = other ∧ rest = rest' :=
  append_inj_of_clearOf isGap.blank isOther.blank clear clear' same

theorem clearOf_isBlank_of_letters (connective : Connective) (text : List Char) :
    ClearOf isBlank (connective.letters ++ text) := by
  rw [← letters_connectiveWord]
  exact clearOf_isBlank_word _ text

/-- A text goes on with one connective at most. -/
theorem Continues.unique {other : Connective} (continues : Continues connective text)
    (continues' : Continues other text) : connective = other := by
  obtain ⟨before, after, rest, gapBefore, -, rfl⟩ := continues
  obtain ⟨before', after', rest', gapBefore', -, same⟩ := continues'
  obtain ⟨-, sameLetters⟩ := gap_append_inj gapBefore gapBefore'
    (clearOf_isBlank_of_letters connective _) (clearOf_isBlank_of_letters other _) same
  cases connective <;> cases other <;> simp [Connective.letters] at sameLetters ⊢

/-- Behind a relation and its connective everything is up to the next
condition. -/
theorem reduces_joined
    (taken : Takes (relation true) text first
      (before ++ (connective.letters ++ (after ++ remaining))))
    (gapBefore : IsGap before) (gapAfter : IsGap after) (clear : ClearOf isBlank remaining) :
    Reduces (joined true connective next) text
      (next >>= fun rest => accept (.joined first connective rest)) remaining := by
  apply (reduces_logged _ _ _ _).trans
  apply taken.reduces_bind.trans
  rw [← letters_connectiveWord]
  exact reduces_spaced gapBefore (connectiveWord connective) gapAfter clear _

/-- A text starts with a character that is not blank, or with a gap. -/
theorem clearOf_or_exists_gap (text : List Char) :
    ClearOf isBlank text ∨
      ∃ gap rest, IsGap gap ∧ ClearOf isBlank rest ∧ text = gap ++ rest := by
  by_cases run : text.takeWhile isBlank = []
  · left
    have whole := List.takeWhile_append_dropWhile (p := isBlank) (l := text)
    rw [run, List.nil_append] at whole
    rw [← whole]
    exact clearOf_dropWhile isBlank text
  · right
    exact ⟨text.takeWhile isBlank, text.dropWhile isBlank,
      ⟨run, fun c inRun => List.mem_takeWhile_imp inRun⟩, clearOf_dropWhile isBlank text,
      List.takeWhile_append_dropWhile.symm⟩

/-- Nothing is joined to a relation where its connective does not follow. -/
theorem refuses_joined {rest : List Char} (taken : Takes (relation true) text first rest)
    (unfollowed : ¬ Continues connective rest) :
    Refuses (joined true connective next) text none := by
  refine (reduces_logged _ _ _ _).refuses (taken.bind_refuses ?_)
  rcases clearOf_or_exists_gap rest with clear | ⟨before, tail, gapBefore, clearTail, rfl⟩
  · exact (refuses_blanks clear).bind
  apply (takes_blanks gapBefore clearTail).bind_refuses
  by_cases found : (connectiveWord connective).letters <+: tail
  · obtain ⟨more, rfl⟩ := found
    apply (takes_word (connectiveWord connective) more).bind_refuses
    rcases clearOf_or_exists_gap more with clear | ⟨after, remaining, gapAfter, -, rfl⟩
    · exact (refuses_blanks clear).bind
    rw [letters_connectiveWord] at unfollowed
    exact absurd ⟨before, after, remaining, gapBefore, gapAfter, rfl⟩ unfollowed
  · exact (refuses_word found).bind

/-- A reading that joins, tried before one that leaves the relation alone,
settles the text as the condition behind the connective does. -/
theorem joined_orElse {second : Reader Condition} {rest : List Char}
    (reduced : Reduces (joined true connective next) text
      (next >>= fun rest => accept (.joined first connective rest)) remaining)
    (alone : Takes second text (.relation first) rest) (offset : Nat) :
    let behind := next ⟨offset + (text.length - remaining.length), remaining⟩
    let whole := (joined true connective next <|> second) ⟨offset, text⟩
    whole.ending = behind.ending.behind first connective
        ⟨offset + (text.length - rest.length), rest⟩ ∧
      whole.fault = behind.fault := by
  intro behind whole
  have ending := reduced.ending offset
  have fault := reduced.fault offset
  cases h : behind.ending with
  | accepted condition head =>
      rw [bind_of_accepted h] at ending fault
      rw [show whole = _ from orElse_of_accepted ending, ending, fault]
      exact ⟨rfl, by simp [Attempt.after, behind]⟩
  | refused =>
      rw [bind_of_refused h] at ending fault
      rw [show whole = _ from orElse_of_refused ending]
      exact ⟨alone.ending offset, by simp [Attempt.after, fault, alone.fault, behind]⟩
  | tooDeep =>
      rw [bind_of_tooDeep h] at ending fault
      rw [show whole = _ from orElse_of_tooDeep ending, ending, fault]
      exact ⟨rfl, by simp [Attempt.after, behind]⟩

/-- Reading a relation and nothing else. -/
theorem takes_alone {rest : List Char} (taken : Takes (relation true) text first rest) :
    Takes (do let only ← relation true; accept (Condition.relation only)) text
      (.relation first) rest :=
  taken.bind (takes_accept _ _)

/-- A relation that a connective follows is settled by the condition behind the
connective. -/
theorem condition_of_connective
    (taken : Takes (relation true) text first
      (before ++ (connective.letters ++ (after ++ remaining))))
    (gapBefore : IsGap before) (gapAfter : IsGap after) (clear : ClearOf isBlank remaining)
    (levels offset : Nat) :
    let behind := condition true levels ⟨offset + (text.length - remaining.length), remaining⟩
    let rest := before ++ (connective.letters ++ (after ++ remaining))
    let whole := condition true (levels + 1) ⟨offset, text⟩
    whole.ending = behind.ending.behind first connective
        ⟨offset + (text.length - rest.length), rest⟩ ∧
      whole.fault = behind.fault := by
  have continues : Continues connective (before ++ (connective.letters ++ (after ++ remaining))) :=
    ⟨before, after, remaining, gapBefore, gapAfter, rfl⟩
  have reduced : Reduces (joined true connective (condition true levels)) text
      (condition true levels >>= fun rest => accept (.joined first connective rest)) remaining :=
    reduces_joined taken gapBefore gapAfter clear
  cases connective with
  | both =>
      have noOther : ¬ Continues .either _ := fun other => nomatch Continues.unique continues other
      exact joined_orElse reduced
        ((refuses_joined taken noOther).orElse_takes (takes_alone taken)) offset
  | either =>
      have noOther : ¬ Continues .both _ := fun other => nomatch Continues.unique continues other
      have settled := joined_orElse reduced (takes_alone taken) offset
      have skipped : Reduces (condition true (levels + 1)) text
          (joined true .either (condition true levels) <|>
            (do let only ← relation true; accept (Condition.relation only))) text :=
        (reduces_nested _ _).trans (refuses_joined taken noOther).reduces_orElse
      have ending := skipped.ending offset
      have fault := skipped.fault offset
      rw [Nat.sub_self, Nat.add_zero] at ending fault
      exact ⟨ending.trans settled.1, fault.trans settled.2⟩

/-- The same of a relation that is spelled, where the gap already keeps digits away from
it. -/
theorem condition_of_spelled {relation : List Char} (spelled : first.SpelledBy relation)
    (permitted : first.Permitted) (gapBefore : IsGap before) (connective : Connective)
    (gapAfter : IsGap after) (clear : ClearOf isBlank remaining) (levels offset : Nat) :
    let rest := before ++ (connective.letters ++ (after ++ remaining))
    let text := relation ++ rest
    let behind := condition true levels ⟨offset + (text.length - remaining.length), remaining⟩
    let whole := condition true (levels + 1) ⟨offset, text⟩
    whole.ending = behind.ending.behind first connective
        ⟨offset + (text.length - rest.length), rest⟩ ∧
      whole.fault = behind.fault :=
  condition_of_connective (takes_relation spelled permitted (gapBefore.clearOf_isDigit _))
    gapBefore gapAfter clear levels offset

/-- A relation that no connective follows is the whole condition. -/
theorem takes_condition_of_relation {rest : List Char}
    (taken : Takes (relation true) text first rest)
    (unfollowed : ∀ connective, ¬ Continues connective rest) (levels : Nat) :
    Takes (condition true (levels + 1)) text (.relation first) rest := by
  apply (reduces_nested _ _).trans
  apply (refuses_joined taken (unfollowed .both)).orElse_takes
  apply (refuses_joined taken (unfollowed .either)).orElse_takes
  exact takes_alone taken

/-- A condition is read in front of any text that continues neither its last
numeral nor the chain, if so many levels are allowed. -/
theorem takes_condition {chain : Condition} {rest : List Char} (spelled : chain.SpelledBy text)
    (permitted : chain.Permitted) {levels : Nat} (short : chain.relations.length ≤ levels)
    (clear : ClearOf Char.isDigit rest) (unfollowed : ∀ connective, ¬ Continues connective rest) :
    Takes (condition true levels) (text ++ rest) chain rest := by
  induction spelled generalizing levels with
  | @relation only text spelled =>
      cases levels with
      | zero => simp [Condition.relations] at short
      | succ levels =>
          have taken := takes_relation spelled (Condition.permitted_relation.1 permitted) clear
          exact takes_condition_of_relation taken unfollowed levels
  | @joined first connective chain relation before after remaining firstSpelled gapBefore gapAfter
      restSpelled ih =>
      cases levels with
      | zero => simp [Condition.relations] at short
      | succ levels =>
          obtain ⟨firstPermitted, restPermitted⟩ := Condition.permitted_joined.1 permitted
          have inner : Takes (condition true levels) (remaining ++ rest) chain rest :=
            ih restPermitted (by simpa [Condition.relations] using short)
          have settled := condition_of_spelled firstSpelled firstPermitted gapBefore connective
            gapAfter (restSpelled.clearOf_isBlank rest) levels
          simp only [List.append_assoc]
          refine ⟨?_, ?_, ?_⟩
          · simp only [← List.append_assoc]
            exact List.suffix_append _ _
          · intro offset
            rw [(settled offset).1, inner.ending]
            simp only [Ending.behind, ending_accept, Ending.accepted.injEq, Head.mk.injEq, true_and,
              and_true]
            simp only [List.length_append]
            omega
          · intro offset
            rw [(settled offset).2, inner.fault]
            rfl

theorem not_continues_nil (connective : Connective) : ¬ Continues connective [] := by
  rintro ⟨before, after, rest, gapBefore, -, same⟩
  exact gapBefore.nonempty (List.append_eq_nil_iff.1 same.symm).1

/-- A spelling that is a whole rule is read to its end. -/
theorem takes_condition_nil {chain : Condition} (spelled : chain.SpelledBy text)
    (permitted : chain.Permitted) {levels : Nat} (short : chain.relations.length ≤ levels) :
    Takes (condition true levels) text chain [] := by
  simpa using takes_condition spelled permitted short clearOf_nil not_continues_nil

end Reader

/-- A text spells one permitted condition at most: both would be what is read
with levels enough for either. -/
theorem Condition.SpelledBy.unique {chain other : Condition} {text : List Char}
    (spelled : chain.SpelledBy text) (permitted : chain.Permitted)
    (spelled' : other.SpelledBy text) (permitted' : other.Permitted) : chain = other := by
  have taken := Reader.takes_condition_nil spelled permitted
    (Nat.le_max_left _ other.relations.length)
  have taken' := Reader.takes_condition_nil spelled' permitted'
    (Nat.le_max_right chain.relations.length _)
  have same := (taken.ending 0).symm.trans (taken'.ending 0)
  exact (Ending.accepted.inj same).1

end PluralForms.Rule
