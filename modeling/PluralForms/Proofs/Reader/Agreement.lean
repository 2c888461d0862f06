/-
# Readers that agree until one of them stops

A reader with few levels left and one with more do the same with a text, unless the first one
is stopped.  This holds of the whole attempt, its log and its fault included, and it is kept by
every way of putting readers together.  So the limit on nesting is not part of what a
rule means: it only decides whether the reading is carried through.
-/

import PluralForms.Proofs.Reader.Ending
import PluralForms.Rule.Reading

namespace PluralForms.Rule.Reader

variable {α β : Type} {reader other first first' second second' : Reader α}
variable {next next' : α → Reader β}

/-- Wherever the first reader is not stopped, the other one does the same. -/
def Agrees (reader other : Reader α) : Prop :=
  ∀ head, (reader head).ending ≠ .tooDeep → other head = reader head

theorem Agrees.refl (reader : Reader α) : Agrees reader reader :=
  fun _ _ => rfl

/-- A reader that is always stopped agrees with any other. -/
theorem agrees_giveUp (other : Reader α) : Agrees giveUp other :=
  fun _ unstopped => absurd rfl unstopped

/-- In a row of readers that is not stopped, the first one is not stopped. -/
theorem Agrees.bind (agrees : Agrees first first')
    (agreesNext : ∀ value, Agrees (next value) (next' value)) :
    Agrees (first >>= next) (first' >>= next') := by
  intro head unstopped
  cases found : (first head).ending with
  | accepted value between =>
      have same : first' head = first head := agrees head (by simp [found])
      rw [bind_of_accepted found] at unstopped ⊢
      rw [bind_of_accepted (same ▸ found), same, agreesNext value between unstopped]
  | refused =>
      have same : first' head = first head := agrees head (by simp [found])
      rw [bind_of_refused found, bind_of_refused (same ▸ found), same]
  | tooDeep =>
      rw [bind_of_tooDeep found] at unstopped
      exact absurd rfl unstopped

theorem Agrees.orElse (agrees : Agrees first first') (agreesToo : Agrees second second') :
    Agrees (first <|> second) (first' <|> second') := by
  intro head unstopped
  cases found : (first head).ending with
  | accepted value between =>
      have same : first' head = first head := agrees head (by simp [found])
      rw [orElse_of_accepted found, orElse_of_accepted (same ▸ found), same]
  | refused =>
      have same : first' head = first head := agrees head (by simp [found])
      rw [orElse_of_refused found] at unstopped ⊢
      rw [orElse_of_refused (same ▸ found), same, agreesToo head unstopped]
  | tooDeep =>
      rw [orElse_of_tooDeep found] at unstopped
      exact absurd found unstopped

theorem Agrees.logged (agrees : Agrees reader other) (construct : Construct)
    (finding : α → Finding) :
    Agrees (logged construct finding reader) (logged construct finding other) := by
  intro head unstopped
  rw [ending_logged] at unstopped
  simp only [Reader.logged, agrees head unstopped]

theorem Agrees.nested (agrees : Agrees reader other) : Agrees (nested reader) (nested other) := by
  intro head unstopped
  rw [ending_nested] at unstopped
  simp only [Reader.nested, agrees head unstopped]

section Conditions

variable (countable : Bool)

/-- Reads a condition, given how the condition behind a connective is read. -/
def level (rest : Reader Condition) : Reader Condition :=
  nested <|
    joined countable .both rest <|>
    joined countable .either rest <|>
    (do let only ← relation countable; accept (.relation only))

theorem condition_succ (levels : Nat) :
    condition countable (levels + 1) = level countable (condition countable levels) := rfl

/-- A level agrees with another one where what they go on with agrees. -/
theorem Agrees.level {rest rest' : Reader Condition} (agrees : Agrees rest rest') :
    Agrees (level countable rest) (level countable rest') := by
  have joins (connective : Connective) :
      Agrees (joined countable connective rest) (joined countable connective rest') := by
    apply Agrees.logged
    apply (Agrees.refl _).bind
    intro first
    apply (Agrees.refl _).bind
    intro _
    apply (Agrees.refl _).bind
    intro _
    apply (Agrees.refl _).bind
    intro _
    exact agrees.bind fun _ => Agrees.refl _
  exact ((joins .both).orElse ((joins .either).orElse (Agrees.refl _))).nested

/-- More levels change nothing about a reading that is not stopped. -/
theorem agrees_condition {levels more : Nat} (enough : levels ≤ more) :
    Agrees (condition countable levels) (condition countable more) := by
  induction levels generalizing more with
  | zero => exact agrees_giveUp _
  | succ levels ih =>
      obtain ⟨more, rfl⟩ := Nat.exists_eq_add_one_of_ne_zero (Nat.ne_zero_of_lt enough)
      exact (ih (Nat.le_of_succ_le_succ enough)).level countable

end Conditions

end PluralForms.Rule.Reader
