/-
# Runs side by side

Two runs go in parallel if, from states that belong together, both return, with results and
states that belong together again, or both stop for the same reason.

What belongs together is a parameter.  The ways of putting recognisers together keep runs in
parallel, so all that has to be shown of a relation between places is that literals and
patterns keep it, and that it tells moving from staying.
-/

import PluralForms.Proofs.Recognizer.Comparison

namespace PluralForms.Recognizer

open Text

/-- Two outcomes of the same sort, whose results and states belong together. -/
inductive Outcomes {σ σ' α β : Type} (states : σ → σ' → Prop) (results : α → β → Prop) :
    Except Stop (α × σ) → Except Stop (β × σ') → Prop
  | returned {result : α} {other : β} {after : σ} {after' : σ'} (alike : results result other)
      (together : states after after') :
      Outcomes states results (.ok (result, after)) (.ok (other, after'))
  | stopped (stop : Stop) : Outcomes states results (.error stop) (.error stop)

theorem Outcomes.mono {σ σ' α β : Type} {states states' : σ → σ' → Prop}
    {results weaker : α → β → Prop} {outcome : Except Stop (α × σ)}
    {outcome' : Except Stop (β × σ')} (outcomes : Outcomes states results outcome outcome')
    (weaken : ∀ result result', results result result' → weaker result result')
    (weakenStates : ∀ after after', states after after' → states' after after') :
    Outcomes states' weaker outcome outcome' := by
  cases outcomes with
  | returned alike together => exact .returned (weaken _ _ alike) (weakenStates _ _ together)
  | stopped stop => exact .stopped stop

/-- If one of the two returns, so does the other. -/
theorem Outcomes.exists_left {σ σ' α β : Type} {states : σ → σ' → Prop} {results : α → β → Prop}
    {outcome : Except Stop (α × σ)} {result' : β} {after' : σ'}
    (outcomes : Outcomes states results outcome (.ok (result', after'))) :
    ∃ result after, outcome = .ok (result, after) ∧ results result result' ∧
      states after after' := by
  cases outcomes with
  | returned alike together => exact ⟨_, _, rfl, alike, together⟩

theorem Outcomes.exists_right {σ σ' α β : Type} {states : σ → σ' → Prop} {results : α → β → Prop}
    {outcome' : Except Stop (β × σ')} {result : α} {after : σ}
    (outcomes : Outcomes states results (.ok (result, after)) outcome') :
    ∃ result' after', outcome' = .ok (result', after') ∧ results result result' ∧
      states after after' := by
  cases outcomes with
  | returned alike together => exact ⟨_, _, rfl, alike, together⟩

theorem eq_of_outcomes {σ α : Type} {outcome outcome' : Except Stop (α × σ)}
    (outcomes : Outcomes Eq Eq outcome outcome') : outcome = outcome' := by
  cases outcomes with
  | returned same together => rw [same, together]
  | stopped stop => rfl

section Runs

variable {σ σ' α β γ δ : Type} {states : σ → σ' → Prop}
variable {results : α → γ → Prop} {others : β → δ → Prop}

/-- The runs do the same from states that belong together. -/
def Parallel (states : σ → σ' → Prop) (results : α → γ → Prop) (run : StateT σ (Except Stop) α)
    (run' : StateT σ' (Except Stop) γ) : Prop :=
  ∀ before before', states before before' → Outcomes states results (run before) (run' before')

namespace Parallel

theorem pure {result : α} {result' : γ} (alike : results result result') :
    Parallel states results (Pure.pure result) (Pure.pure result') :=
  fun _ _ together => .returned alike together

theorem mono {weaker : α → γ → Prop} {run : StateT σ (Except Stop) α}
    {run' : StateT σ' (Except Stop) γ} (parallel : Parallel states results run run')
    (weaken : ∀ result result', results result result' → weaker result result') :
    Parallel states weaker run run' := by
  intro before before' together
  exact (parallel before before' together).mono weaken fun _ _ => id

theorem throw (stop : Stop) :
    Parallel states results (MonadExcept.throw stop) (MonadExcept.throw stop) :=
  fun _ _ _ => .stopped stop

theorem bind {run : StateT σ (Except Stop) α} {run' : StateT σ' (Except Stop) γ}
    {next : α → StateT σ (Except Stop) β} {next' : γ → StateT σ' (Except Stop) δ}
    (first : Parallel states results run run')
    (rest : ∀ result result', results result result' →
      Parallel states others (next result) (next' result')) :
    Parallel states others (run >>= next) (run' >>= next') := by
  intro before before' together
  have early := first before before' together
  show Outcomes states others (run before >>= fun step => next step.1 step.2)
    (run' before' >>= fun step => next' step.1 step.2)
  generalize run before = outcome at early
  generalize run' before' = outcome' at early
  cases early with
  | returned alike together => exact rest _ _ alike _ _ together
  | stopped stop => exact .stopped stop

/-- From one state a run does what it does. -/
theorem refl (run : StateT σ (Except Stop) α) : Parallel Eq Eq run run := by
  rintro before _ rfl
  cases run before with
  | ok step => exact .returned rfl rfl
  | error stop => exact .stopped stop

end Parallel

end Runs

section Recognizers

variable {ν σ σ' : Type} {states : σ → σ' → Prop} {places : Place → Place → Prop}

/-- Going in parallel is a way to compare runs. -/
def Comparison.parallel (states : σ → σ' → Prop) :
    Comparison (StateT σ (Except Stop)) (StateT σ' (Except Stop)) where
  Holds := Parallel states
  pure := .pure
  throw := .throw
  bind := .bind

/-- Actions and references that do the same keep runs in parallel, however deep definitions
unfold. -/
theorem parallel_runToDepth (kept : KeptByMatching places)
    {act : Action → Value → StateT σ (Except Stop) (Option Value)}
    {act' : Action → Value → StateT σ' (Except Stop) (Option Value)}
    {lookUp : ν → StateT σ (Except Stop) (Recognizer ν)}
    {lookUp' : ν → StateT σ' (Except Stop) (Recognizer ν)}
    (acts : ∀ action value, Parallel states Eq (act action value) (act' action value))
    (lookUps : ∀ label, Parallel states Eq (lookUp label) (lookUp' label))
    (depth : Nat) (recognizer : Recognizer ν) {here there : Place}
    (together : places here there) :
    Parallel states (Option.Rel (Match.Alike places))
      (runToDepth act lookUp depth recognizer here)
      (runToDepth act' lookUp' depth recognizer there) := by
  rw [← compares_eq]
  refine (Comparison.parallel states).holds_runToDepth keptByLists_eq kept ?_
    (fun label _ => (lookUps label).mono ?_) depth recognizer (fun _ _ => trivial) together
  · rintro action value _ rfl
    rw [rel_eq]
    exact acts action value
  · exact fun definition _ same => ⟨same, fun _ _ => trivial⟩

end Recognizers

section Preserving

variable {ν σ α β : Type} {good : σ → Prop}

/-- From good states the run leads to good states only. -/
def Preserves (good : σ → Prop) (run : StateT σ (Except Stop) α) : Prop :=
  ∀ ⦃before result after⦄, good before → run before = .ok (result, after) → good after

/-- A run that goes in parallel with itself from the same good states leads to good states. -/
theorem Parallel.preserves {results : α → α → Prop} {run : StateT σ (Except Stop) α}
    (parallel : Parallel (fun state state' => state = state' ∧ good state) results run run) :
    Preserves good run := by
  intro before result after isGood returned
  have outcomes := parallel before before ⟨rfl, isGood⟩
  rw [returned] at outcomes
  cases outcomes with
  | returned alike together => exact together.2

theorem Preserves.parallel {run : StateT σ (Except Stop) α} (preserves : Preserves good run) :
    Parallel (fun state state' => state = state' ∧ good state) Eq run run := by
  rintro before _ ⟨rfl, isGood⟩
  cases returned : run before with
  | ok step => exact .returned rfl ⟨rfl, preserves isGood returned⟩
  | error stop => exact .stopped stop

theorem Preserves.pure {result : α} :
    Preserves good (Pure.pure result : StateT σ (Except Stop) α) := by
  intro _ _ _ isGood returned
  cases returned
  exact isGood

theorem Preserves.throw (stop : Stop) :
    Preserves good (MonadExcept.throw stop : StateT σ (Except Stop) α) := by
  intro _ _ _ _ returned
  cases returned

theorem Preserves.bind {run : StateT σ (Except Stop) α} {next : α → StateT σ (Except Stop) β}
    (first : Preserves good run) (rest : ∀ result, Preserves good (next result)) :
    Preserves good (run >>= next) := by
  apply Parallel.preserves
  apply first.parallel.bind
  rintro result _ rfl
  exact (rest result).parallel

/-- What actions and look-ups preserve, every run preserves. -/
theorem preserves_runToDepth {act : Action → Value → StateT σ (Except Stop) (Option Value)}
    {lookUp : ν → StateT σ (Except Stop) (Recognizer ν)}
    (acts : ∀ action value, Preserves good (act action value))
    (lookUps : ∀ label, Preserves good (lookUp label)) (depth : Nat)
    (recognizer : Recognizer ν) (here : Place) :
    Preserves good (runToDepth act lookUp depth recognizer here) :=
  (parallel_runToDepth keptByMatching_eq (fun action value => (acts action value).parallel)
    (fun label => (lookUps label).parallel) depth recognizer rfl).preserves

end Preserving

end PluralForms.Recognizer
