/-
# What a run remembers

A run keeps what its references look up, and forgets none of it.  So whatever is known of a
value that was returned on the way, in terms of the definitions that are kept in the end,
stays known to the end of the run.
-/

import PluralForms.Recognizer.System

namespace PluralForms.Recognizer

namespace Memory

/-- The definition that a reference keeps. -/
def Keeps (memory : Memory) (label : Label) (definition : Recognizer Label) : Prop :=
  memory.kept.lookup label.node = some definition

/-- Whatever a reference keeps in the earlier memory it keeps in the later one. -/
def Extends (before after : Memory) : Prop :=
  ∀ ⦃label definition⦄, before.Keeps label definition → after.Keeps label definition

theorem Extends.refl (memory : Memory) : memory.Extends memory :=
  fun _ _ kept => kept

theorem Extends.trans {before middle after : Memory} (first : before.Extends middle)
    (second : middle.Extends after) : before.Extends after :=
  fun _ _ kept => second (first kept)

/-- What is looked up for a reference that keeps nothing yet takes nothing away. -/
theorem extends_cons {memory : Memory} {node : Nat} (unkept : memory.kept.lookup node = none)
    (definition : Recognizer Label) (lookUps : List String) :
    memory.Extends ⟨(node, definition) :: memory.kept, lookUps⟩ := by
  intro label other kept
  unfold Keeps at kept ⊢
  have different : label.node ≠ node := by
    rintro rfl
    rw [unkept] at kept
    cases kept
  rw [List.lookup_cons, beq_false_of_ne different]
  exact kept

end Memory

/-- A run that may look something up. -/
abbrev Run (α : Type) : Type := StateT Memory (Except Stop) α

/-- A run that returns has returned from each of its steps. -/
theorem exists_returned_of_bind {α β : Type} {run : Run α} {next : α → Run β}
    {before after : Memory} {result : β}
    (returned : (run >>= next) before = .ok (result, after)) :
    ∃ value middle, run before = .ok (value, middle) ∧
      next value middle = .ok (result, after) := by
  have unfolded : (run >>= next) before = run before >>= fun step => next step.1 step.2 := rfl
  rw [unfolded] at returned
  cases ran : run before with
  | ok step =>
      rw [ran] at returned
      exact ⟨step.1, step.2, rfl, returned⟩
  | error stop =>
      rw [ran] at returned
      cases returned

/-- The run forgets nothing, and what it returns is good as long as nothing is forgotten until
the `final` memory. -/
def Gives (final : Memory) {α : Type} (good : α → Prop) (run : Run α) : Prop :=
  ∀ ⦃before value after⦄, run before = .ok (value, after) →
    before.Extends after ∧ (after.Extends final → good value)

namespace Gives

variable {final : Memory} {α β : Type} {good : α → Prop} {good' : β → Prop}

theorem pure {value : α} (isGood : good value) : Gives final good (Pure.pure value : Run α) := by
  intro before _ _ returned
  cases returned
  exact ⟨.refl before, fun _ => isGood⟩

theorem weaken {run : Run α} {better : α → Prop} (gives : Gives final better run)
    (weaker : ∀ value, better value → good value) : Gives final good run :=
  fun _ value _ returned => (gives returned).imp_right fun isBetter last =>
    weaker value (isBetter last)

theorem throw (stop : Stop) : Gives final good (MonadExcept.throw stop : Run α) := by
  intro _ _ _ returned
  cases returned

/-- What was good before stays so until the end, since the rest of the run forgets nothing. -/
theorem bind {run : Run α} {next : α → Run β} (first : Gives final good run)
    (others : ∀ value, Gives final (fun result => good value → good' result) (next value)) :
    Gives final good' (run >>= next) := by
  intro before result after returned
  obtain ⟨value, middle, ran, ran'⟩ := exists_returned_of_bind returned
  obtain ⟨remembered, isGood⟩ := first ran
  obtain ⟨remembered', isGood'⟩ := others value ran'
  refine ⟨remembered.trans remembered', fun last => ?_⟩
  exact isGood' last (isGood (remembered'.trans last))

end Gives

/-- A reference that keeps a definition gives it, and another one looks its definition up. -/
theorem consult_eq (system : System Label) (label : Label) (before : Memory) :
    consult system label before =
      match before.kept.lookup label.node with
      | some definition => .ok (definition, before)
      | none => (system.definition label).map fun definition =>
          (definition,
            ⟨(label.node, definition) :: before.kept, label.name :: before.lookUps⟩) := by
  have unfolded : consult system label before =
      (match before.kept.lookup label.node with
        | some definition => pure definition
        | none => do
            let definition ← system.definition label
            set (Memory.mk ((label.node, definition) :: before.kept)
              (label.name :: before.lookUps))
            pure definition : Run (Recognizer Label)) before := rfl
  rw [unfolded]
  cases before.kept.lookup label.node with
  | some definition => rfl
  | none =>
      show ((system.definition label).bind fun definition => .ok (definition, before)) >>= _ = _
      cases system.definition label <;> rfl

/-- A reference that keeps a definition gives it, and another one keeps what it looks up. -/
theorem consult_returned {system : System Label} {label : Label} {before after : Memory}
    {definition : Recognizer Label}
    (returned : consult system label before = .ok (definition, after)) :
    (before.Keeps label definition ∧ after = before) ∨
      (before.kept.lookup label.node = none ∧ system.definition label = .ok definition ∧
        after = ⟨(label.node, definition) :: before.kept, label.name :: before.lookUps⟩) := by
  rw [consult_eq] at returned
  cases kept : before.kept.lookup label.node with
  | some definition' =>
      rw [kept] at returned
      cases returned
      exact .inl ⟨kept, rfl⟩
  | none =>
      cases defined : system.definition label with
      | ok definition' =>
          rw [kept, defined] at returned
          cases returned
          exact .inr ⟨rfl, rfl, rfl⟩
      | error stop =>
          rw [kept, defined] at returned
          cases returned

/-- Only a definition that cannot be looked up stops a run here. -/
theorem consult_stopped {system : System Label} {label : Label} {before : Memory} {stop : Stop}
    (stopped : consult system label before = .error stop) :
    system.definition label = .error stop := by
  rw [consult_eq] at stopped
  cases kept : before.kept.lookup label.node with
  | some definition =>
      rw [kept] at stopped
      cases stopped
  | none =>
      cases defined : system.definition label with
      | ok definition =>
          rw [kept, defined] at stopped
          cases stopped
      | error stop' =>
          rw [kept, defined] at stopped
          cases stopped
          rfl

/-- Consulting a reference gives the definition that it keeps from then on. -/
theorem gives_consult (final : Memory) (system : System Label) (label : Label) :
    Gives final (final.Keeps label) (consult system label) := by
  intro before definition after returned
  obtain ⟨kept, rfl⟩ | ⟨unkept, -, rfl⟩ := consult_returned returned
  · exact ⟨.refl _, fun last => last kept⟩
  · exact ⟨Memory.extends_cons unkept definition _, fun last => last List.lookup_cons_self⟩

/-- Every definition that is kept meets a condition. -/
def Memory.KeepsOnly (memory : Memory) (meets : Recognizer Label → Prop) : Prop :=
  ∀ ⦃label definition⦄, memory.Keeps label definition → meets definition

theorem Memory.keepsOnly_empty (meets : Recognizer Label → Prop) :
    Memory.empty.KeepsOnly meets := by
  intro label definition kept
  cases kept

/-- References keep what meets the condition if all definitions of the system do. -/
theorem keepsOnly_of_consult {system : System Label} {meets : Recognizer Label → Prop}
    (all : ∀ label definition, system.definition label = .ok definition → meets definition)
    {label : Label} {before after : Memory} {definition : Recognizer Label}
    (only : before.KeepsOnly meets)
    (returned : consult system label before = .ok (definition, after)) :
    after.KeepsOnly meets := by
  obtain ⟨-, rfl⟩ | ⟨-, defined, rfl⟩ := consult_returned returned
  · exact only
  · intro other found kept
    unfold Memory.Keeps at kept
    rw [List.lookup_cons] at kept
    split at kept
    · cases kept
      exact all label definition defined
    · exact only kept

end PluralForms.Recognizer
