/-
# How conditions are spelled

The grammar of the rule language, as relations between a construct and the
texts that spell it.  Nothing here mentions a reader: a construct has many
spellings, because every gap between two words is any run of blanks and every
numeral may have leading zeros.

Spelling and permission are kept apart.  A divisor of zero and an interval with
too many members can be spelled like any other, but a condition that has one of
them is not permitted.
-/

import PluralForms.Number.Numeral
import PluralForms.Rule.Basic
import PluralForms.Text.Blank

namespace PluralForms.Rule

open Number Text

/-- One blank or more, and nothing else. -/
structure IsGap (text : List Char) : Prop where
  nonempty : text ≠ []
  blank : ∀ c ∈ text, isBlank c = true

/-- One to sixty-four digits with this value.  Leading zeros are digits like
any other. -/
structure IsNumeral (value : Nat) (text : List Char) : Prop where
  nonempty : text ≠ []
  length_le : text.length ≤ 64
  digit : ∀ c ∈ text, c.isDigit = true
  value_eq : numeralValue text = value

theorem IsGap.singleton {c : Char} (blank : isBlank c = true) : IsGap [c] :=
  ⟨List.cons_ne_nil _ _, List.forall_mem_singleton.2 blank⟩

theorem IsNumeral.singleton {c : Char} {value : Nat} (digit : c.isDigit = true)
    (value_eq : numeralValue [c] = value) : IsNumeral value [c] :=
  ⟨List.cons_ne_nil _ _, by simp, List.forall_mem_singleton.2 digit, value_eq⟩

/-- The count is the letter `n`; a remainder names the count, the word `mod`
and the divisor. -/
inductive Expression.SpelledBy : Expression → List Char → Prop
  | count : SpelledBy .count ['n']
  | remainder {before after digits : List Char} {divisor : Nat} (gapBefore : IsGap before)
      (gapAfter : IsGap after) (numeral : IsNumeral divisor digits) :
      SpelledBy (.remainder divisor) (['n'] ++ before ++ ['m', 'o', 'd'] ++ after ++ digits)

/-- An interval is two numerals around two dots, without gaps. -/
inductive Interval.SpelledBy : Interval → List Char → Prop
  | bounds {first last : Nat} {firstDigits lastDigits : List Char}
      (firstNumeral : IsNumeral first firstDigits) (lastNumeral : IsNumeral last lastDigits) :
      SpelledBy ⟨first, last⟩ (firstDigits ++ ['.', '.'] ++ lastDigits)

/-- A relation is denied by the word `not` behind a gap, and left as it is by
nothing at all. -/
inductive DenialSpelledBy : Bool → List Char → Prop
  | absent : DenialSpelledBy false []
  | present {before : List Char} (gap : IsGap before) :
      DenialSpelledBy true (before ++ ['n', 'o', 't'])

/-- The three forms of a relation.  The denial follows the word `is` but
precedes the word `in`, and `within` takes none. -/
inductive Relation.SpelledBy : Relation → List Char → Prop
  | equality {subject : Expression} {denied : Bool} {value : Nat}
      {expression before denial after digits : List Char}
      (subjectSpelled : subject.SpelledBy expression) (gapBefore : IsGap before)
      (denialSpelled : DenialSpelledBy denied denial) (gapAfter : IsGap after)
      (numeral : IsNumeral value digits) :
      SpelledBy (.equality subject denied value)
        (expression ++ before ++ ['i', 's'] ++ denial ++ after ++ digits)
  | membership {subject : Expression} {denied : Bool} {interval : Interval}
      {expression denial before after bounds : List Char}
      (subjectSpelled : subject.SpelledBy expression)
      (denialSpelled : DenialSpelledBy denied denial) (gapBefore : IsGap before)
      (gapAfter : IsGap after) (intervalSpelled : interval.SpelledBy bounds) :
      SpelledBy (.membership subject denied interval)
        (expression ++ denial ++ before ++ ['i', 'n'] ++ after ++ bounds)
  | within {subject : Expression} {interval : Interval}
      {expression before after bounds : List Char}
      (subjectSpelled : subject.SpelledBy expression) (gapBefore : IsGap before)
      (gapAfter : IsGap after) (intervalSpelled : interval.SpelledBy bounds) :
      SpelledBy (.within subject interval)
        (expression ++ before ++ ['w', 'i', 't', 'h', 'i', 'n'] ++ after ++ bounds)

/-- The letters of a connective. -/
def Connective.letters : Connective → List Char
  | both => ['a', 'n', 'd']
  | either => ['o', 'r']

/-- A chain of relations with a connective between each two, grouped to the
right. -/
inductive Condition.SpelledBy : Condition → List Char → Prop
  | relation {only : Relation} {text : List Char} (spelled : only.SpelledBy text) :
      SpelledBy (.relation only) text
  | joined {first : Relation} {connective : Connective} {rest : Condition}
      {relation before after remaining : List Char} (firstSpelled : first.SpelledBy relation)
      (gapBefore : IsGap before) (gapAfter : IsGap after)
      (restSpelled : rest.SpelledBy remaining) :
      SpelledBy (.joined first connective rest)
        (relation ++ before ++ connective.letters ++ after ++ remaining)

/-- Nothing is divided by zero. -/
def Expression.Permitted : Expression → Prop
  | count => True
  | remainder divisor => divisor ≠ 0

/-- The interval has at most a hundred thousand members. -/
def Interval.Permitted (interval : Interval) : Prop :=
  (interval.last : Int) - interval.first + 1 ≤ 100000

/-- The expression and the interval of the relation are permitted. -/
def Relation.Permitted : Relation → Prop
  | equality subject _ _ => subject.Permitted
  | membership subject _ interval => subject.Permitted ∧ interval.Permitted
  | within subject interval => subject.Permitted ∧ interval.Permitted

/-- Every relation of the chain is permitted. -/
def Condition.Permitted (condition : Condition) : Prop :=
  ∀ relation ∈ condition.relations, relation.Permitted

/-- The size of an interval is what its permission is about. -/
theorem Interval.permitted_iff (interval : Interval) :
    interval.Permitted ↔ interval.size ≤ mostMembers := by
  unfold Permitted size mostMembers
  omega

theorem Condition.permitted_relation {only : Relation} :
    (Condition.relation only).Permitted ↔ only.Permitted := by
  simp [Condition.Permitted, relations]

theorem Condition.permitted_joined {first : Relation} {connective : Connective}
    {rest : Condition} :
    (Condition.joined first connective rest).Permitted ↔ first.Permitted ∧ rest.Permitted := by
  simp [Condition.Permitted, relations]

theorem Condition.spelledBy_relation {only : Relation} {text : List Char} :
    (Condition.relation only).SpelledBy text ↔ only.SpelledBy text := by
  constructor
  · intro spelled
    cases spelled with
    | relation spelled => exact spelled
  · exact .relation

theorem Condition.length_relations_pos (condition : Condition) :
    0 < condition.relations.length := by
  cases condition <;> simp [relations]

/-- A chain that is not longer than one relation is that relation. -/
theorem Condition.exists_eq_relation {condition : Condition}
    (short : condition.relations.length ≤ 1) : ∃ only, condition = .relation only := by
  cases condition with
  | relation only => exact ⟨only, rfl⟩
  | joined first connective rest =>
      have more := rest.length_relations_pos
      simp only [relations, List.length_cons] at short
      omega

/-- Every spelling of an expression starts with the letter of the count. -/
theorem Expression.SpelledBy.exists_cons {expression : Expression} {text : List Char}
    (h : expression.SpelledBy text) : ∃ tail, text = 'n' :: tail := by
  cases h with
  | count => exact ⟨_, rfl⟩
  | remainder => exact ⟨_, rfl⟩

theorem Relation.SpelledBy.exists_cons {relation : Relation} {text : List Char}
    (h : relation.SpelledBy text) : ∃ tail, text = 'n' :: tail := by
  cases h with
  | equality subjectSpelled =>
    obtain ⟨tail, rfl⟩ := subjectSpelled.exists_cons
    exact ⟨_, rfl⟩
  | membership subjectSpelled =>
    obtain ⟨tail, rfl⟩ := subjectSpelled.exists_cons
    exact ⟨_, rfl⟩
  | within subjectSpelled =>
    obtain ⟨tail, rfl⟩ := subjectSpelled.exists_cons
    exact ⟨_, rfl⟩

theorem Condition.SpelledBy.exists_cons {condition : Condition} {text : List Char}
    (h : condition.SpelledBy text) : ∃ tail, text = 'n' :: tail := by
  cases h with
  | relation spelled => exact spelled.exists_cons
  | joined firstSpelled =>
    obtain ⟨tail, rfl⟩ := firstSpelled.exists_cons
    exact ⟨_, rfl⟩

end PluralForms.Rule
