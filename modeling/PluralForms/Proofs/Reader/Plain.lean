/-
# Readers without nesting

Everything up to a single relation is put together from words, blanks and numerals
in three ways: one construct follows another, one reading of a text is tried after
another, and a construct is logged.  Only conditions are nested.

So whatever is true of the tokens and is kept by the three ways is true of every
relation.  It is shown by induction on how a plain reader is put together, and the
grammar need not be gone through again.
-/

import PluralForms.Proofs.Reader.Ending
import PluralForms.Rule.Reading

namespace PluralForms.Rule.Reader

/-- Readers that are put together from tokens and nest nothing. -/
inductive Plain : {α : Type} → Reader α → Prop
  | accept {α : Type} (value : α) : Plain (accept value)
  | reject {α : Type} (fault : Fault) : Plain (reject fault : Reader α)
  | word (expected : Word) : Plain (word expected)
  | blanks : Plain blanks
  | numeral : Plain numeral
  | bind {α β : Type} {first : Reader α} {next : α → Reader β} (plain : Plain first)
      (plainNext : ∀ value, Plain (next value)) : Plain (first >>= next)
  | orElse {α : Type} {first second : Reader α} (plain : Plain first)
      (plainToo : Plain second) : Plain (first <|> second)
  | logged {α : Type} {reader : Reader α} (plain : Plain reader) (construct : Construct)
      (finding : α → Finding) : Plain (logged construct finding reader)

/-- A word between blanks, and what follows. -/
theorem Plain.spaced {α : Type} {next : Reader α} (plain : Plain next) (expected : Word) :
    Plain (do Reader.blanks; Reader.word expected; Reader.blanks; next) :=
  blanks.bind fun _ => (word expected).bind fun _ => blanks.bind fun _ => plain

theorem plain_denial : Plain denial :=
  (Plain.blanks.bind fun _ => (Plain.word _).bind fun _ => .accept _).orElse (.accept _)

theorem plain_interval : Plain interval := by
  apply Plain.logged
  apply Plain.numeral.bind
  intro first
  apply (Plain.word _).bind
  intro _
  apply Plain.numeral.bind
  intro last
  dsimp only
  split
  · exact .reject _
  · exact .accept _

section Constructs

variable (countable : Bool)

theorem plain_count : Plain (count countable) := by
  apply Plain.logged
  apply (Plain.word _).bind
  intro _
  split
  · exact .accept _
  · exact .reject _

theorem plain_remainder : Plain (remainder countable) := by
  apply Plain.logged
  apply (plain_count countable).bind
  intro _
  apply Plain.spaced
  apply Plain.numeral.bind
  intro divisor
  split
  · exact .reject _
  · exact .accept _

theorem plain_expression : Plain (expression countable) :=
  (plain_remainder countable).orElse (plain_count countable)

theorem plain_equality : Plain (equality countable) := by
  apply Plain.logged
  apply (plain_expression countable).bind
  intro subject
  apply Plain.blanks.bind
  intro _
  apply (Plain.word _).bind
  intro _
  apply plain_denial.bind
  intro denied
  apply Plain.blanks.bind
  intro _
  exact Plain.numeral.bind fun _ => .accept _

theorem plain_membership : Plain (membership countable) := by
  apply Plain.logged
  apply (plain_expression countable).bind
  intro subject
  apply plain_denial.bind
  intro denied
  exact (plain_interval.bind fun _ => .accept _).spaced _

theorem plain_within : Plain (within countable) := by
  apply Plain.logged
  apply (plain_expression countable).bind
  intro subject
  exact (plain_interval.bind fun _ => .accept _).spaced _

/-- A single relation nests nothing. -/
theorem plain_relation : Plain (relation countable) :=
  (plain_equality countable).orElse ((plain_membership countable).orElse (plain_within countable))

end Constructs

end PluralForms.Rule.Reader
