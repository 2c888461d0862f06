/-
# Runs compared

Two runs of one recogniser that differ in what becomes of its actions and references, or in
what they keep and take note of, are compared step by step.  What it means that they compare is
a parameter: all that is asked of it is that runs which return or stop at once compare, and
runs that are put together from such ones.  Then whatever actions and references keep, every
recogniser keeps.

The two runs may come to different values, and start from different places.  Of the places it
matters that literals and patterns succeed alike there, and that moving from one is moving from
the other; of the values only how many there are.
-/

import Mathlib.Data.List.Forall2
import PluralForms.Proofs.Recognizer.Labels

namespace PluralForms.Recognizer

open Text

/-- A way to compare runs, given how their results compare. -/
structure Comparison (m m' : Type → Type) [Monad m] [Monad m'] [MonadExceptOf Stop m]
    [MonadExceptOf Stop m'] where
  Holds : ∀ {α β : Type}, (α → β → Prop) → m α → m' β → Prop
  pure : ∀ {α β : Type} {results : α → β → Prop} {result : α} {result' : β},
    results result result' → Holds results (Pure.pure result) (Pure.pure result')
  throw : ∀ {α β : Type} {results : α → β → Prop} (stop : Stop),
    Holds results (MonadExceptOf.throw stop : m α) (MonadExceptOf.throw stop : m' β)
  bind : ∀ {α β γ δ : Type} {results : α → γ → Prop} {others : β → δ → Prop} {run : m α}
    {run' : m' γ} {next : α → m β} {next' : γ → m' δ}, Holds results run run' →
    (∀ result result', results result result' → Holds others (next result) (next' result')) →
    Holds others (run >>= next) (run' >>= next')

section Places

variable (places : Place → Place → Prop)

/-- Successes with the same value, at places that belong together. -/
structure Match.Alike (found found' : Match) : Prop where
  value : found.value = found'.value
  place : places found.place found'.place

/-- From places that belong together literals and patterns succeed alike.  Places that belong
together leave the same room for repetition, and movement at one is movement at the other. -/
structure KeptByMatching : Prop where
  literal : ∀ (text : List Char) {here there : Place}, places here there →
    Option.Rel (Match.Alike places) (matchLiteral text here) (matchLiteral text there)
  pattern : ∀ (form : Pattern) {here there : Place}, places here there →
    Option.Rel (Match.Alike places) (matchPattern form here) (matchPattern form there)
  stepBudget : ∀ {here there : Place}, places here there → stepBudget here = stepBudget there
  stays_iff : ∀ {here there last last' : Place}, places here there → places last last' →
    (last.offset = here.offset ↔ last'.offset = there.offset)

/-- From one place literals and patterns do what they do. -/
theorem keptByMatching_eq : KeptByMatching Eq where
  literal text here there same := by
    subst same
    cases matchLiteral text here with
    | none => exact .none
    | some found => exact .some ⟨rfl, rfl⟩
  pattern form here there same := by
    subst same
    cases matchPattern form here with
    | none => exact .none
    | some found => exact .some ⟨rfl, rfl⟩
  stepBudget same := by rw [same]
  stays_iff same same' := by rw [same, same']

variable (values : Value → Value → Prop)

/-- Lists of values that compare, one by one, compare too. -/
structure KeptByLists : Prop where
  refl : ∀ value, values value value
  list : ∀ {items items' : List Value}, List.Forall₂ values items items' →
    values (.list items) (.list items')

theorem keptByLists_eq : KeptByLists Eq where
  refl _ := rfl
  list same := congrArg Value.list (List.forall₂_eq_eq_eq ▸ same)

/-- Values of any kind compare with any others. -/
theorem keptByLists_any : KeptByLists fun _ _ => True := ⟨fun _ => trivial, fun _ => trivial⟩

/-- Successes whose values compare, at places that belong together. -/
structure Match.Compares (found found' : Match) : Prop where
  value : values found.value found'.value
  place : places found.place found'.place

/-- As many values, which compare one by one, with places behind them that belong together. -/
structure TakenAlike (taken taken' : List Value × Place) : Prop where
  values : List.Forall₂ values taken.1 taken'.1
  place : places taken.2 taken'.2

variable {places values}

theorem TakenAlike.cons {found found' : Match} {taken taken' : List Value × Place}
    (first : found.Compares places values found') (others : TakenAlike places values taken taken') :
    TakenAlike places values (found.value :: taken.1, taken.2)
      (found'.value :: taken'.1, taken'.2) :=
  ⟨.cons first.value others.values, others.place⟩

/-- What succeeds alike compares, in whatever way values compare. -/
theorem compares_of_alike (lists : KeptByLists values) {result result' : Option Match}
    (alike : Option.Rel (Match.Alike places) result result') :
    Option.Rel (Match.Compares places values) result result' := by
  cases alike with
  | none => exact .none
  | some alike => exact .some ⟨alike.value ▸ lists.refl _, alike.place⟩

theorem compares_eq : Match.Compares places Eq = Match.Alike places := by
  funext found found'
  exact propext ⟨fun compares => ⟨compares.value, compares.place⟩,
    fun alike => ⟨alike.value, alike.place⟩⟩

theorem rel_eq {α : Type} : Option.Rel (@Eq α) = Eq := by
  funext result result'
  refine propext ⟨fun related => ?_, ?_⟩
  · cases related with
    | none => rfl
    | some same => rw [same]
  · rintro rfl
    cases result with
    | none => exact .none
    | some result => exact .some rfl

/-- Successes that compare by all that there is to them are the same. -/
theorem rel_compares_eq : Option.Rel (Match.Compares Eq Eq) = Eq := by
  have same : Match.Compares Eq Eq = Eq := by
    funext found found'
    obtain ⟨value, place⟩ := found
    obtain ⟨value', place'⟩ := found'
    refine propext ⟨fun ⟨sameValue, samePlace⟩ => ?_, ?_⟩
    · exact congrArg₂ Match.mk sameValue samePlace
    · rintro ⟨⟩
      exact ⟨rfl, rfl⟩
  rw [same, rel_eq]

end Places

section Recognizers

variable {ν : Type} {m m' : Type → Type} [Monad m] [Monad m'] [MonadExceptOf Stop m]
  [MonadExceptOf Stop m'] (comparison : Comparison m m')
variable {places : Place → Place → Prop} {values : Value → Value → Prop}

variable (places values) in
/-- Handlers that compare: actions on values that do, and references that meet a condition at
places that belong together. -/
structure Handlers.Compare (proper : ν → Prop) (handlers : Handlers ν m)
    (others : Handlers ν m') : Prop where
  act : ∀ action {value value' : Value}, values value value' →
    comparison.Holds (Option.Rel values) (handlers.act action value) (others.act action value')
  force : ∀ label, proper label → ∀ {here there : Place}, places here there →
    comparison.Holds (Option.Rel (Match.Compares places values)) (handlers.force label here)
      (others.force label there)

namespace Comparison

variable {comparison}

/-- Steps that compare do so however often they are repeated. -/
theorem holds_iterate (kept : KeptByMatching places) {step : Place → m (Option Match)}
    {step' : Place → m' (Option Match)}
    (steps : ∀ {here there}, places here there →
      comparison.Holds (Option.Rel (Match.Compares places values)) (step here) (step' there))
    (budget : Nat) (most : Option Int) {here there : Place} (together : places here there) :
    comparison.Holds (TakenAlike places values) (iterate step budget most here)
      (iterate step' budget most there) := by
  induction budget generalizing most here there with
  | zero =>
      unfold iterate
      by_cases full : most.any (· ≤ 0) = true
      · rw [if_pos full, if_pos full]
        exact comparison.pure ⟨.nil, together⟩
      · rw [if_neg full, if_neg full]
        exact comparison.throw .endless
  | succ budget ih =>
      unfold iterate
      by_cases full : most.any (· ≤ 0) = true
      · rw [if_pos full, if_pos full]
        exact comparison.pure ⟨.nil, together⟩
      rw [if_neg full, if_neg full]
      refine comparison.bind (steps together) fun result result' compares => ?_
      cases compares with
      | none => exact comparison.pure ⟨.nil, together⟩
      | @some found found' compares =>
          dsimp only
          by_cases stays : found.place.offset = here.offset
          · rw [if_pos stays, if_pos ((kept.stays_iff together compares.place).1 stays)]
            exact comparison.pure ⟨.cons compares.value .nil, compares.place⟩
          · rw [if_neg stays, if_neg (mt (kept.stays_iff together compares.place).2 stays)]
            refine comparison.bind (ih (most.map (· - 1)) compares.place) ?_
            intro taken taken' same
            exact comparison.pure (.cons compares same)

theorem holds_repeated (lists : KeptByLists values) (kept : KeptByMatching places)
    {step : Place → m (Option Match)} {step' : Place → m' (Option Match)}
    (steps : ∀ {here there}, places here there →
      comparison.Holds (Option.Rel (Match.Compares places values)) (step here) (step' there))
    (least : Int) (most : Option Int) {here there : Place} (together : places here there) :
    comparison.Holds (Option.Rel (Match.Compares places values)) (repeated step least most here)
      (repeated step' least most there) := by
  unfold repeated
  rw [kept.stepBudget together]
  refine comparison.bind (holds_iterate kept steps _ most together) ?_
  rintro ⟨items, last⟩ ⟨items', last'⟩ ⟨compare, beyond⟩
  refine comparison.pure ?_
  dsimp only at compare ⊢
  rw [compare.length_eq]
  split
  · exact .none
  · exact .some ⟨lists.list compare, beyond⟩

variable {proper : ν → Prop} {handlers : Handlers ν m} {others : Handlers ν m'}

mutual

/-- With handlers that compare, a recogniser compares with itself at places that belong
together. -/
theorem holds_run (lists : KeptByLists values) (kept : KeptByMatching places)
    (handled : handlers.Compare comparison places values proper others) :
    ∀ (recognizer : Recognizer ν), (∀ label ∈ recognizer.labels, proper label) →
      ∀ {here there : Place}, places here there →
        comparison.Holds (Option.Rel (Match.Compares places values))
          (run handlers recognizer here) (run others recognizer there)
  | .literal text, _, _, _, together => by
      unfold run
      exact comparison.pure (compares_of_alike lists (kept.literal text together))
  | .pattern form, _, _, _, together => by
      unfold run
      exact comparison.pure (compares_of_alike lists (kept.pattern form together))
  | .sequence items, within, _, _, together => by
      unfold run
      refine comparison.bind (holds_runAll lists kept handled items within together) ?_
      intro taken taken' same
      cases same with
      | none => exact comparison.pure .none
      | some same => exact comparison.pure (.some ⟨lists.list same.values, same.place⟩)
  | .choice items, within, _, _, together => by
      unfold run
      exact holds_runFirst lists kept handled items within together
  | .repetition item least most, within, _, _, together => by
      unfold run
      exact holds_repeated lists kept (holds_run lists kept handled item within) least most together
  | .acting item action, within, _, _, together => by
      unfold run
      refine comparison.bind (holds_run lists kept handled item within together) ?_
      intro result result' compares
      cases compares with
      | none => exact comparison.pure .none
      | @some found found' compares =>
          refine comparison.bind (handled.act action compares.value) fun made made' compare => ?_
          refine comparison.pure ?_
          cases compare with
          | none => exact .none
          | some compare => exact .some ⟨compare, compares.place⟩
  | .deferred label, within, _, _, together => by
      unfold run
      exact handled.force label (within label List.mem_cons_self) together
termination_by structural recognizer => recognizer

theorem holds_runAll (lists : KeptByLists values) (kept : KeptByMatching places)
    (handled : handlers.Compare comparison places values proper others) :
    ∀ (items : List (Recognizer ν)), (∀ label ∈ labelsAll items, proper label) →
      ∀ {here there : Place}, places here there →
        comparison.Holds (Option.Rel (TakenAlike places values)) (runAll handlers items here)
          (runAll others items there)
  | [], _, _, _, together => by
      unfold runAll
      exact comparison.pure (.some ⟨.nil, together⟩)
  | item :: rest, within, _, _, together => by
      obtain ⟨here, behind⟩ := List.forall_mem_append.1 within
      unfold runAll
      refine comparison.bind (holds_run lists kept handled item here together) ?_
      intro result result' compares
      cases compares with
      | none => exact comparison.pure .none
      | some compares =>
          refine comparison.bind (holds_runAll lists kept handled rest behind compares.place) ?_
          intro taken taken' same
          refine comparison.pure ?_
          cases same with
          | none => exact .none
          | some same => exact .some (.cons compares same)
termination_by structural items => items

theorem holds_runFirst (lists : KeptByLists values) (kept : KeptByMatching places)
    (handled : handlers.Compare comparison places values proper others) :
    ∀ (items : List (Recognizer ν)), (∀ label ∈ labelsAll items, proper label) →
      ∀ {here there : Place}, places here there →
        comparison.Holds (Option.Rel (Match.Compares places values))
          (runFirst handlers items here) (runFirst others items there)
  | [], _, _, _, _ => by
      unfold runFirst
      exact comparison.pure .none
  | item :: rest, within, _, _, together => by
      obtain ⟨here, behind⟩ := List.forall_mem_append.1 within
      unfold runFirst
      refine comparison.bind (holds_run lists kept handled item here together) ?_
      intro result result' compares
      cases compares with
      | none => exact holds_runFirst lists kept handled rest behind together
      | some compares => exact comparison.pure (.some compares)
termination_by structural items => items

end

/-- Actions that compare, and references that look up the same definitions, keep runs
comparing, however deep definitions unfold. -/
theorem holds_runToDepth (lists : KeptByLists values) (kept : KeptByMatching places)
    {act : Action → Value → m (Option Value)} {act' : Action → Value → m' (Option Value)}
    {lookUp : ν → m (Recognizer ν)} {lookUp' : ν → m' (Recognizer ν)}
    (acts : ∀ action {value value'}, values value value' →
      comparison.Holds (Option.Rel values) (act action value) (act' action value'))
    (lookUps : ∀ label, proper label →
      comparison.Holds (fun definition definition' => definition = definition' ∧
        ∀ label ∈ definition.labels, proper label) (lookUp label) (lookUp' label))
    (depth : Nat) (recognizer : Recognizer ν) (within : ∀ label ∈ recognizer.labels, proper label)
    {here there : Place} (together : places here there) :
    comparison.Holds (Option.Rel (Match.Compares places values))
      (runToDepth act lookUp depth recognizer here)
      (runToDepth act' lookUp' depth recognizer there) := by
  induction depth generalizing recognizer here there with
  | zero =>
      unfold runToDepth
      refine holds_run lists kept ⟨acts, fun _ _ _ _ _ => ?_⟩ recognizer within together
      exact comparison.throw .endless
  | succ depth ih =>
      unfold runToDepth
      refine holds_run lists kept ⟨acts, fun label isProper _ _ together => ?_⟩ recognizer within
        together
      refine comparison.bind (lookUps label isProper) ?_
      rintro definition _ ⟨rfl, within⟩
      exact ih definition within together

/-- Handlers that do the same from the same places have a recogniser do the same. -/
theorem holds_run_eq
    (acts : ∀ action value,
      comparison.Holds Eq (handlers.act action value) (others.act action value))
    (forces : ∀ label, proper label → ∀ here,
      comparison.Holds Eq (handlers.force label here) (others.force label here))
    (recognizer : Recognizer ν) (within : ∀ label ∈ recognizer.labels, proper label)
    (here : Place) :
    comparison.Holds Eq (run handlers recognizer here) (run others recognizer here) := by
  rw [← rel_compares_eq]
  refine holds_run keptByLists_eq keptByMatching_eq ⟨?_, ?_⟩ recognizer within rfl
  · rintro action value _ rfl
    rw [rel_eq]
    exact acts action value
  · rintro label isProper here _ rfl
    rw [rel_compares_eq]
    exact forces label isProper here

theorem holds_runToDepth_eq {act : Action → Value → m (Option Value)}
    {act' : Action → Value → m' (Option Value)} {lookUp : ν → m (Recognizer ν)}
    {lookUp' : ν → m' (Recognizer ν)}
    (acts : ∀ action value, comparison.Holds Eq (act action value) (act' action value))
    (lookUps : ∀ label, proper label →
      comparison.Holds (fun definition definition' => definition = definition' ∧
        ∀ label ∈ definition.labels, proper label) (lookUp label) (lookUp' label))
    (depth : Nat) (recognizer : Recognizer ν) (within : ∀ label ∈ recognizer.labels, proper label)
    (here : Place) :
    comparison.Holds Eq (runToDepth act lookUp depth recognizer here)
      (runToDepth act' lookUp' depth recognizer here) := by
  rw [← rel_compares_eq]
  refine holds_runToDepth keptByLists_eq keptByMatching_eq ?_ lookUps depth recognizer within rfl
  rintro action value _ rfl
  rw [rel_eq]
  exact acts action value

end Comparison

end Recognizers

end PluralForms.Recognizer
