/-
# Guarded recursion

A reference is guarded if it lies in an item of a sequence, in the same definition, behind an
item that consumes.  So a run comes to it at a place further on than the one where the
definition was taken up, and while definitions unfold inside one another the places go on
towards the end of the text.  As many unfoldings as there are characters ahead are enough, and
one more for a reference that the run starts with.

Within one definition a run ends because repetition does, even of items that take nothing.
-/

import PluralForms.Proofs.Recognizer.Parallel
import PluralForms.Proofs.Recognizer.Progress
import PluralForms.Proofs.Recognizer.Repetition

namespace PluralForms.Recognizer

open Text

mutual

/-- Every reference in the recogniser lies in an item of a sequence behind one that consumes. -/
def isGuarded {ν : Type} : Recognizer ν → Bool
  | .literal _ => true
  | .pattern _ => true
  | .sequence items => areGuardedInTurn items
  | .choice items => areGuarded items
  | .repetition item _ _ => item.isGuarded
  | .acting item _ => item.isGuarded
  | .deferred _ => false
termination_by structural recognizer => recognizer

/-- Each recogniser guards its own references. -/
def areGuarded {ν : Type} : List (Recognizer ν) → Bool
  | [] => true
  | item :: rest => item.isGuarded && areGuarded rest
termination_by structural items => items

/-- Each recogniser guards its own references, unless one before it consumes. -/
def areGuardedInTurn {ν : Type} : List (Recognizer ν) → Bool
  | [] => true
  | item :: rest => item.isGuarded && (item.consumes || areGuardedInTurn rest)
termination_by structural items => items

end

mutual

/-- Numbering references does not change what is guarded. -/
theorem isGuarded_number : ∀ (recognizer : Recognizer String) (next : Nat),
    (recognizer.number next).1.isGuarded = recognizer.isGuarded
  | .literal _, _ => rfl
  | .pattern _, _ => rfl
  | .sequence items, next => (areGuarded_numberAll items next).2
  | .choice items, next => (areGuarded_numberAll items next).1
  | .repetition item _ _, next => isGuarded_number item next
  | .acting item _, next => isGuarded_number item next
  | .deferred _, _ => rfl
termination_by structural recognizer => recognizer

theorem areGuarded_numberAll : ∀ (items : List (Recognizer String)) (next : Nat),
    areGuarded (numberAll items next).1 = areGuarded items ∧
      areGuardedInTurn (numberAll items next).1 = areGuardedInTurn items
  | [], _ => ⟨rfl, rfl⟩
  | item :: rest, next =>
      have here := isGuarded_number item next
      have others := areGuarded_numberAll rest (item.number next).2
      ⟨congrArg₂ and here others.1,
        congrArg₂ and here (congrArg₂ or (consumes_number item next) others.2)⟩
termination_by structural items => items

end

/-- Every definition of the system guards its references. -/
def System.isGuarded {ν : Type} (system : System ν) : Bool :=
  system.definitions.all fun entry => entry.2.isGuarded

theorem System.isGuarded_labelled (system : System String) :
    system.labelled.isGuarded = system.isGuarded := by
  have definitions (entries : List (String × Recognizer String)) (next : Nat) :
      ((numberDefinitions entries next).1.all fun entry => entry.2.isGuarded) =
        entries.all fun entry => entry.2.isGuarded := by
    induction entries generalizing next with
    | nil => rfl
    | cons entry rest ih => exact congrArg₂ and (isGuarded_number entry.2 next) (ih _)
  exact definitions system.definitions _

section Ending

/-- A run is over with a good memory, or has stopped as it may. -/
def Fits (good : Memory → Prop) (allowed : Stop → Prop) : Except Stop Memory → Prop
  | .ok after => good after
  | .error stop => allowed stop

/-- From a good memory the run returns with a good one, or stops as it may. -/
def Ends {α : Type} (good : Memory → Prop) (allowed : Stop → Prop) (run : Run α) : Prop :=
  ∀ ⦃before⦄, good before → Fits good allowed ((run before).map Prod.snd)

variable {good : Memory → Prop} {allowed : Stop → Prop} {α β : Type}

namespace Ends

theorem pure {result : α} : Ends good allowed (Pure.pure result : Run α) :=
  fun _ isGood => isGood

variable {run : Run α}

theorem returns (ends : Ends good allowed run) {before after : Memory} {result : α}
    (isGood : good before) (returned : run before = .ok (result, after)) : good after := by
  have fits := ends isGood
  rw [returned] at fits
  exact fits

theorem stops (ends : Ends good allowed run) {before : Memory} {stop : Stop}
    (isGood : good before) (stopped : run before = .error stop) : allowed stop := by
  have fits := ends isGood
  rw [stopped] at fits
  exact fits

/-- A run that is put together ends if its first part does, and its second part does behind
whatever the first one returns. -/
theorem bind {next : α → Run β} (first : Ends good allowed run)
    (rest : ∀ ⦃before result after⦄, good before → run before = .ok (result, after) →
      Ends good allowed (next result)) :
    Ends good allowed (run >>= next) := by
  intro before isGood
  show Fits good allowed ((run before >>= fun step => next step.1 step.2).map Prod.snd)
  cases ran : run before with
  | ok step => exact rest isGood ran (first.returns isGood ran)
  | error stop => exact first.stops isGood ran

end Ends

section Repetition

variable {step : Place → Run (Option Match)} {start : Place} {most : Option Int}
variable (leads : LeadsOnward step) (inside : start.Inside)
  (steps : ∀ here, start.Onward here → Ends good allowed (step here))

include leads inside steps

/-- While a repetition goes on, its memory stays good. -/
theorem good_of_successes {before reached : Memory} {taken : List Match} (isGood : good before)
    (successes : Successes step most start before taken reached) : good reached := by
  induction successes with
  | none => exact isGood
  | next successes goesOn success ih =>
      exact (steps _ (successes.onward leads inside)).returns ih success

theorem fits_of_endsWith {before : Memory} {taken : List Match} {outcome : Except Stop Memory}
    {applied : Nat} (isGood : good before)
    (ends : EndsWith step most start before taken outcome applied) :
    Fits good allowed outcome := by
  have reaches {taken : List Match} {reached : Memory}
      (successes : Successes step most start before taken reached) : good reached :=
    good_of_successes leads inside steps isGood successes
  have here {taken : List Match} {reached : Memory}
      (successes : Successes step most start before taken reached) :
      Ends good allowed (step (placeAfter start taken)) :=
    steps _ (successes.onward leads inside)
  cases ends with
  | full successes => exact reaches successes
  | stalled successes => exact reaches successes
  | failed successes goesOn failure => exact (here successes).returns (reaches successes) failure
  | stopped successes goesOn stops => exact (here successes).stops (reaches successes) stops

/-- A repetition ends if its steps do, since it takes only so many of them. -/
theorem ends_repeated (least : Int) (most : Option Int) :
    Ends good allowed (repeated step least most start) := by
  intro before isGood
  obtain ⟨taken, outcome, applied, ends⟩ : ∃ taken outcome applied,
      EndsWith step most start before taken outcome applied :=
    Successes.exists_endsWith leads inside .none
  rw [repeated_of_endsWith ends (ends.length_lt_stepBudget leads inside)]
  have fits := fits_of_endsWith leads inside steps isGood ends
  cases outcome <;> exact fits

end Repetition

section Recognizers

variable {handlers : Handlers Label Run}

/-- The references with these labels end, when a run from a place comes to them; guarded ones
it comes to further on only. -/
def ReferencesEnd (good : Memory → Prop) (allowed : Stop → Prop) (handlers : Handlers Label Run)
    (labels : List Label) (guarded : Bool) (place : Place) : Prop :=
  ∀ label ∈ labels, ∀ here, place.Onward here → (guarded = true → place.offset < here.offset) →
    Ends good allowed (handlers.force label here)

/-- Some of the references, from a place further on, where no more of them are guarded or some
characters are taken. -/
theorem ReferencesEnd.onward {labels labels' : List Label} {guarded guarded' : Bool}
    {place place' : Place} (references : ReferencesEnd good allowed handlers labels guarded place)
    (fewer : labels' ⊆ labels) (onward : place.Onward place')
    (covered : guarded = true → guarded' = true ∨ place.offset < place'.offset) :
    ReferencesEnd good allowed handlers labels' guarded' place' := by
  intro label isLabel here beyond further
  refine references label (fewer isLabel) here (onward.trans beyond) fun isGuarded => ?_
  rcases covered isGuarded with isGuarded' | moved
  · exact Int.lt_of_le_of_lt onward.notBack (further isGuarded')
  · exact Int.lt_of_lt_of_le moved beyond.notBack

variable {makes : Action → Value → Value → Prop}

/-- A success of a part leads onward, and further on if the part consumes. -/
theorem onward_and_moves (sound : ∀ final, Sound final makes handlers)
    {item : Recognizer Label} {place : Place} (inside : place.Inside)
    {before after : Memory} {found : Match}
    (returned : run handlers item place before = .ok (some found, after)) :
    place.Onward found.place ∧ (item.consumes = true → place.offset < found.place.offset) := by
  obtain ⟨-, arises⟩ := gives_run (sound after) item place returned
  have yields := arises (.refl after) found rfl
  exact ⟨yields.onward inside, fun consuming => yields.moves consuming inside⟩

mutual

/-- A recogniser ends if the references in it do.  Behind an item that consumes, every place is
further on than the start of the sequence, so the references there count as guarded. -/
theorem ends_run (sound : ∀ final, Sound final makes handlers)
    (acts : ∀ action value, Ends good allowed (handlers.act action value)) :
    ∀ (recognizer : Recognizer Label) {place : Place}, place.Inside →
    ReferencesEnd good allowed handlers recognizer.labels recognizer.isGuarded place →
      Ends good allowed (run handlers recognizer place)
  | .literal text, place, _, _ => by
      unfold run
      exact .pure
  | .pattern form, place, _, _ => by
      unfold run
      exact .pure
  | .sequence items, place, inside, references => by
      unfold run
      exact .bind (ends_runAll sound acts items inside references) fun _ _ _ _ _ => .pure
  | .choice items, place, inside, references => by
      unfold run
      exact ends_runFirst sound acts items inside references
  | .repetition item least most, place, inside, references => by
      unfold run
      refine ends_repeated ?_ inside (fun here onward => ?_) least most
      · intro here before found after inside returned
        exact (onward_and_moves sound inside returned).1
      · exact ends_run sound acts item (onward.inside inside)
          (references.onward (List.Subset.refl _) onward .inl)
  | .acting item action, place, inside, references => by
      unfold run
      refine .bind (ends_run sound acts item inside references) fun _ result _ _ _ => ?_
      cases result with
      | none => exact .pure
      | some found => exact .bind (acts action found.value) fun _ _ _ _ _ => .pure
  | .deferred label, place, inside, references => by
      unfold run
      exact references label List.mem_cons_self place (.refl inside) nofun
termination_by structural recognizer => recognizer

theorem ends_runAll (sound : ∀ final, Sound final makes handlers)
    (acts : ∀ action value, Ends good allowed (handlers.act action value)) :
    ∀ (items : List (Recognizer Label)) {place : Place}, place.Inside →
    ReferencesEnd good allowed handlers (labelsAll items) (areGuardedInTurn items) place →
      Ends good allowed (runAll handlers items place)
  | [], place, _, _ => by
      unfold runAll
      exact .pure
  | item :: rest, place, inside, references => by
      unfold runAll
      have first : ReferencesEnd good allowed handlers item.labels item.isGuarded place := by
        refine references.onward (List.subset_append_left _ _) (.refl inside) fun guarded => ?_
        rw [areGuardedInTurn, Bool.and_eq_true] at guarded
        exact .inl guarded.1
      refine .bind (ends_run sound acts item inside first) fun _ result _ _ returned => ?_
      cases result with
      | none => exact .pure
      | some found =>
          obtain ⟨onward, moves⟩ := onward_and_moves sound inside returned
          refine .bind (ends_runAll sound acts rest (onward.inside inside) ?_)
            fun _ _ _ _ _ => .pure
          refine references.onward (List.subset_append_right _ _) onward fun guarded => ?_
          rw [areGuardedInTurn, Bool.and_eq_true, Bool.or_eq_true] at guarded
          exact guarded.2.symm.imp_right moves
termination_by structural items => items

theorem ends_runFirst (sound : ∀ final, Sound final makes handlers)
    (acts : ∀ action value, Ends good allowed (handlers.act action value)) :
    ∀ (items : List (Recognizer Label)) {place : Place}, place.Inside →
    ReferencesEnd good allowed handlers (labelsAll items) (areGuarded items) place →
      Ends good allowed (runFirst handlers items place)
  | [], place, _, _ => by
      unfold runFirst
      exact .pure
  | item :: rest, place, inside, references => by
      unfold runFirst
      have first : ReferencesEnd good allowed handlers item.labels item.isGuarded place := by
        refine references.onward (List.subset_append_left _ _) (.refl inside) fun guarded => ?_
        rw [areGuarded, Bool.and_eq_true] at guarded
        exact .inl guarded.1
      refine .bind (ends_run sound acts item inside first) fun _ result _ _ _ => ?_
      cases result with
      | some found => exact .pure
      | none =>
          refine ends_runFirst sound acts rest inside ?_
          refine references.onward (List.subset_append_right _ _) (.refl inside) fun guarded => ?_
          rw [areGuarded, Bool.and_eq_true] at guarded
          exact .inl guarded.2
termination_by structural items => items

end

end Recognizers

section Depth

variable {system : System Label} {act : Action → Value → Except Stop (Option Value)}

/-- Why a run may stop without an answer: an action of it does, or a reference names no
definition. -/
def MayStop (system : System Label) (act : Action → Value → Except Stop (Option Value))
    (stop : Stop) : Prop :=
  (∃ action value, act action value = .error stop) ∨
    ∃ label ∈ system.labels, system.definition label = .error stop

theorem eq_undefined_of_definition {label : Label} {stop : Stop}
    (stopped : system.definition label = .error stop) : stop = .undefined label.name := by
  unfold System.definition at stopped
  split at stopped
  · cases stopped
  · cases stopped
    rfl

/-- The definition is one that the system has. -/
def System.Defines (system : System Label) (definition : Recognizer Label) : Prop :=
  ∃ label, system.definition label = .ok definition

theorem ends_inRun (action : Action) (value : Value) :
    Ends good (MayStop system act) (inRun act action value) := by
  intro before isGood
  unfold inRun
  cases outcome : act action value with
  | ok made => exact isGood
  | error stop => exact .inl ⟨action, value, outcome⟩

theorem ends_consult {label : Label} (isLabel : label ∈ system.labels) :
    Ends (Memory.KeepsOnly · system.Defines) (MayStop system act) (consult system label) := by
  intro before only
  cases consulted : consult system label before with
  | ok step => exact keepsOnly_of_consult (fun label _ defined => ⟨label, defined⟩) only consulted
  | error stop => exact .inr ⟨label, isLabel, consult_stopped consulted⟩

/-- A definition that is given was kept from one of the system's. -/
theorem defines_of_consult {label : Label} {before after : Memory}
    {definition : Recognizer Label} (only : before.KeepsOnly system.Defines)
    (returned : consult system label before = .ok (definition, after)) :
    system.Defines definition := by
  obtain ⟨kept, -⟩ | ⟨-, defined, -⟩ := consult_returned returned
  · exact only kept
  · exact ⟨label, defined⟩

/-- Guarded recursion ends.  An unfolding starts further on than the one around it, unless it is
the first, so there are no more of them than there are characters ahead, and one. -/
theorem ends_runToDepth
    (guarded : ∀ definition, system.Defines definition → definition.isGuarded = true) (depth : Nat)
    (recognizer : Recognizer Label) (labels : recognizer.labels ⊆ system.labels) {place : Place}
    (inside : place.Inside)
    (room : recognizer.labels ≠ [] →
      place.text.length - place.offset + (if recognizer.isGuarded then 0 else 1) ≤ depth) :
    Ends (Memory.KeepsOnly · system.Defines) (MayStop system act)
      (runToDepth (inRun act) (consult system) depth recognizer place) := by
  induction depth generalizing recognizer place with
  | zero =>
      rw [runToDepth_eq]
      refine ends_run (fun final => sound_handlersToDepth final system act 0) ends_inRun
        recognizer inside fun label isLabel here onward further => ?_
      have spare := room (List.ne_nil_of_mem isLabel)
      have notBack := onward.notBack
      have notPast := onward.notPast
      split at spare
      next isGuarded =>
        have moved := further isGuarded
        omega
      · omega
  | succ depth ih =>
      rw [runToDepth_eq]
      refine ends_run (fun final => sound_handlersToDepth final system act (depth + 1)) ends_inRun
        recognizer inside fun label isLabel here onward further => ?_
      refine .bind (ends_consult (labels isLabel)) fun _ definition _ only returned => ?_
      have defines := defines_of_consult only returned
      obtain ⟨name, defined⟩ := id defines
      refine ih definition (fun _ => System.mem_labels_of_definition defined)
        (onward.inside inside) fun _ => ?_
      have spare := room (List.ne_nil_of_mem isLabel)
      have notBack := onward.notBack
      rw [if_pos (guarded definition defines), onward.sameText]
      split at spare
      next isGuarded =>
        have moved := further isGuarded
        omega
      · omega

end Depth

end Ending

section Deeper

variable {ν σ : Type}

/-- Runs of which the first does not end, or both do the same. -/
def Comparison.unlessEndless : Comparison (StateT σ (Except Stop)) (StateT σ (Except Stop)) where
  Holds results run run' :=
    ∀ before, run before = .error .endless ∨ Outcomes Eq results (run before) (run' before)
  pure alike _ := .inr (.returned alike rfl)
  throw stop _ := .inr (.stopped stop)
  bind {_ _ _ _ _ others run run' next next'} first rest := by
    intro before
    show (run before >>= fun step => next step.1 step.2) = .error .endless ∨
      Outcomes Eq others (run before >>= fun step => next step.1 step.2)
        (run' before >>= fun step => next' step.1 step.2)
    rcases first before with endless | early
    · rw [endless]
      exact .inl rfl
    · generalize run before = outcome at early
      generalize run' before = outcome' at early
      cases early with
      | @returned _ _ after _ alike together =>
          obtain rfl := together
          exact rest _ _ alike after
      | stopped stop => exact .inr (.stopped stop)

theorem unlessEndless_refl {α : Type} (run : StateT σ (Except Stop) α) :
    Comparison.unlessEndless.Holds Eq run run :=
  fun before => .inr (Parallel.refl run before before rfl)

/-- A run that ends with the depth that it has does the same with more. -/
theorem runToDepth_of_deeper (act : Action → Value → StateT σ (Except Stop) (Option Value))
    (lookUp : ν → StateT σ (Except Stop) (Recognizer ν)) (depth more : Nat)
    (recognizer : Recognizer ν) (place : Place) :
    Comparison.unlessEndless.Holds Eq (runToDepth act lookUp depth recognizer place)
      (runToDepth act lookUp (depth + more) recognizer place) := by
  induction depth generalizing recognizer place with
  | zero =>
      rw [runToDepth_eq, runToDepth_eq]
      refine Comparison.holds_run_eq (fun action value => ?_) (fun _ _ _ _ => .inl rfl) recognizer
        (fun _ _ => trivial) place
      cases more <;> exact unlessEndless_refl (act action value)
  | succ depth ih =>
      rw [Nat.add_right_comm]
      refine Comparison.holds_run_eq (fun action value => unlessEndless_refl (act action value)) ?_
        recognizer (fun _ _ => trivial) place
      intro label _ here
      refine Comparison.unlessEndless.bind (unlessEndless_refl (lookUp label)) ?_
      rintro definition _ rfl
      exact ih definition here

end Deeper

theorem isGuarded_of_defines {system : System String} (guarded : system.isGuarded = true)
    {definition : Recognizer Label} (defines : system.labelled.Defines definition) :
    definition.isGuarded = true := by
  obtain ⟨label, defined⟩ := defines
  rw [← system.isGuarded_labelled, System.isGuarded, List.all_eq_true] at guarded
  exact guarded _ (System.exists_entry_of_definition defined)

/-- The depth to which a system runs leaves room for every unfolding, if there is anything to
unfold. -/
theorem System.room_of_depthBound (system : System String) {place : Place}
    (inside : place.Inside) (some : system.labelled.start.labels ≠ []) :
    (place.text.length : Int) - place.offset + 1 ≤ system.depthBound place := by
  obtain ⟨label, isLabel⟩ := List.exists_mem_of_ne_nil _ some
  have isReference : label ∈ system.labelled.labels := List.mem_append_left _ isLabel
  rw [labels_labelled, mem_numbered_iff] at isReference
  have positive : 0 < system.references := by
    rw [references_eq]
    exact Nat.zero_lt_of_lt (List.getElem?_eq_some_iff.1 isReference).1
  have room : (place.text.length - place.offset).natAbs + 2 ≤
      system.references * ((place.text.length - place.offset).natAbs + 2) :=
    Nat.le_mul_of_pos_left _ positive
  have upper := inside.2
  unfold depthBound
  omega

/-- A run of a system with guarded definitions ends, from every place on a text and whatever
the repetitions in it take.  It returns, with a success or a failure, unless an action gives no
answer or a reference names no definition; and it does the same with any depth that is large
enough. -/
theorem run_ends_of_isGuarded {system : System String} (guarded : system.isGuarded = true)
    {act : Action → Value → Except Stop (Option Value)}
    (acts : ∀ action value, act action value ≠ .error .endless) {place : Place}
    (inside : place.Inside) {before : Memory}
    (kept : before.KeepsOnly system.labelled.Defines) :
    ∃ outcome, (∀ depth, system.depthBound place ≤ depth →
        runToDepth (inRun act) (consult system.labelled) depth system.labelled.start place before =
          outcome) ∧
      ((∃ result after, outcome = .ok (result, after)) ∨
        ∃ stop, MayStop system.labelled act stop ∧ outcome = .error stop) := by
  have ends : Ends (Memory.KeepsOnly · system.labelled.Defines) (MayStop system.labelled act)
      (runToDepth (inRun act) (consult system.labelled) (system.depthBound place)
        system.labelled.start place) := by
    refine ends_runToDepth (fun _ => isGuarded_of_defines guarded) (system.depthBound place)
      system.labelled.start (List.subset_append_left _ _) inside fun some => ?_
    have room := system.room_of_depthBound inside some
    split <;> omega
  refine ⟨runToDepth (inRun act) (consult system.labelled) (system.depthBound place)
    system.labelled.start place before, fun depth enough => ?_, ?_⟩
  · obtain ⟨more, rfl⟩ := Nat.exists_eq_add_of_le enough
    rcases runToDepth_of_deeper (inRun act) (consult system.labelled) (system.depthBound place) more
      system.labelled.start place before with endless | same
    · -- Neither an action nor a reference stops a run for not ending.
      rcases ends.stops kept endless with ⟨action, value, stops⟩ | ⟨label, -, stops⟩
      · exact absurd stops (acts action value)
      · cases eq_undefined_of_definition stops
    · exact (eq_of_outcomes same).symm
  · cases outcome : runToDepth (inRun act) (consult system.labelled) (system.depthBound place)
      system.labelled.start place before with
    | ok step => exact .inl ⟨step.1, step.2, rfl⟩
    | error stop => exact .inr ⟨stop, ends.stops kept outcome, rfl⟩

/-- Nested brackets with letters that may be missing between them, any number of times.  The
repetition would go on for ever if a success that takes nothing did not end it. -/
theorem run_ends_of_brackets :
    let letters : Recognizer String := .repetition (.pattern ⟨[.lower], 0, none⟩) 0 none
    let brackets : Recognizer String := .sequence [.optional (.literal ['[']), .literal ['('],
      .repetition (.choice [.deferred "brackets", letters]) 0 none, .literal [')']]
    let system : System String := ⟨.repetition (.deferred "brackets") 0 none,
      [("brackets", brackets)]⟩
    let place : Place := .ofString "()(a()b)" 0
    system.isGuarded = true ∧ place.Inside ∧
      ∃ found after, (∀ depth, system.depthBound place ≤ depth →
        runToDepth perform (consult system.labelled) depth system.labelled.start place .empty =
          .ok (some found, after)) ∧ found.place.offset = 8 := by
  intro letters brackets system place
  have guarded : system.isGuarded = true := rfl
  have inside : place.Inside := ⟨by decide, by decide⟩
  have answers (action : Action) (value : Value) :
      perform action value ≠ (.error .endless : Except Stop (Option Value)) := by
    unfold perform
    split <;> exact nofun
  have passes : ((system.run place .empty).toOption.bind Prod.fst).any
      (fun found => found.place.offset == 8) = true := by
    decide +kernel
  obtain ⟨found, after, ran, stops⟩ := exists_returned_of_any passes
  obtain ⟨outcome, same, -⟩ :=
    run_ends_of_isGuarded guarded answers inside (Memory.keepsOnly_empty _)
  rw [System.run, perform_eq_inRun, same _ (Nat.le_refl _)] at ran
  refine ⟨guarded, inside, found, after, fun depth enough => ?_, eq_of_beq stops⟩
  rw [perform_eq_inRun, same depth enough, ran]

end PluralForms.Recognizer
