/-
# Corresponding readers

Two readers correspond if they do the same at the same text, where the text may stand at a
different offset for the second of them: they both accept, with values that belong together
and heads that have moved equally far, or both refuse, or both stop, and they leave faults
that belong together.

So readers correspond if they run in parallel from heads of which one is a shift of the other.
A token is found by the text ahead alone, and every token keeps such heads.
-/

import PluralForms.Proofs.Reader.Parallel

namespace PluralForms.Rule

/-- The head at the same text, so many characters further on. -/
def Head.shifted (shift : Nat) (head : Head) : Head := ⟨head.offset + shift, head.ahead⟩

@[simp]
theorem Head.ahead_shifted (shift : Nat) (head : Head) : (head.shifted shift).ahead = head.ahead :=
  rfl

theorem Head.shifted_move (shift : Nat) (head : Head) (count : Nat) :
    (head.shifted shift).move count = (head.move count).shifted shift := by
  simp [shifted, move, Nat.add_right_comm]

/-- Two endings of the same sort, the second with its head shifted. -/
inductive Ending.Corresponds {α β : Type} (values : α → β → Prop) (shift : Nat) :
    Ending α → Ending β → Prop
  | accepted {value : α} {other : β} (alike : values value other) (head : Head) :
      Corresponds values shift (.accepted value head) (.accepted other (head.shifted shift))
  | refused : Corresponds values shift .refused .refused
  | tooDeep : Corresponds values shift .tooDeep .tooDeep

/-- The ending with its head shifted. -/
def Ending.shifted {α : Type} (shift : Nat) : Ending α → Ending α
  | accepted value head => accepted value (head.shifted shift)
  | refused => refused
  | tooDeep => tooDeep

/-- If equal values only belong together, the second ending is the first one,
shifted. -/
theorem Ending.Corresponds.eq_shifted {α : Type} {shift : Nat} {ending other : Ending α}
    (corresponds : ending.Corresponds Eq shift other) : other = ending.shifted shift := by
  cases corresponds with
  | accepted alike head => rw [alike, shifted]
  | refused => rfl
  | tooDeep => rfl

/-- Two attempts that end alike and leave faults that belong together. -/
structure Attempt.Corresponds {α β : Type} (faults : Fault → Fault → Prop)
    (values : α → β → Prop) (shift : Nat) (attempt : Attempt α) (other : Attempt β) : Prop where
  ending : attempt.ending.Corresponds values shift other.ending
  fault : Option.Rel faults attempt.fault other.fault

/-- The second head stands at the same text, so many characters further on. -/
def Head.IsShifted (shift : Nat) (head other : Head) : Prop := other = head.shifted shift

variable {α γ : Type} {faults : Fault → Fault → Prop} {shift : Nat} {values : α → γ → Prop}

/-- Heads that belong together are shifts of each other. -/
theorem Ending.Parallel.corresponds {ending : Ending α} {other : Ending γ}
    (parallel : ending.Parallel (Head.IsShifted shift) values other) :
    ending.Corresponds values shift other := by
  cases parallel with
  | accepted alike together =>
      rw [show _ = _ from together]
      exact .accepted alike _
  | refused => exact .refused
  | tooDeep => exact .tooDeep

namespace Reader

/-- The readers correspond wherever the head stands. -/
def Corresponds (faults : Fault → Fault → Prop) (values : α → γ → Prop) (shift : Nat)
    (reader : Reader α) (other : Reader γ) : Prop :=
  ∀ head, (reader head).Corresponds faults values shift (other (head.shifted shift))

theorem Parallel.corresponds {reader : Reader α} {other : Reader γ}
    (parallel : Parallel (Head.IsShifted shift) faults values reader other) :
    Corresponds faults values shift reader other := by
  intro head
  obtain ⟨ending, fault⟩ := parallel head (head.shifted shift) rfl
  exact ⟨ending.corresponds, fault⟩

/-- The smallest constructs are found by the text ahead alone. -/
theorem keptByTokens_shifted (shift : Nat) : KeptByTokens (Head.IsShifted shift) where
  word expected head _ := by
    rintro rfl
    rw [word_eq, word_eq, Head.ahead_shifted, Head.shifted_move]
    split
    · exact .accepted rfl rfl
    · exact .refused
  blanks {head _} := by
    rintro rfl
    rw [blanks_eq, blanks_eq, Head.ahead_shifted, Head.shifted_move]
    split
    · exact .refused
    · exact .accepted rfl rfl
  numeral {head _} := by
    rintro rfl
    rw [numeral_eq, numeral_eq, Head.ahead_shifted, Head.shifted_move]
    split
    · exact .refused
    · exact .accepted rfl rfl

end Reader

end PluralForms.Rule
