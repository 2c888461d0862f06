/-
# Actions that reject nothing

An action that gives back a value, whichever it is, has no say in what is recognised.  Taken out
of a recogniser, actions are as good as actions that keep every value.  A run of these comes to
other values, and so to the same places as long as no action of the other run rejects a value
or stops at one.

Which actions a run performs, and on which values, is noted beside it.  The notes are kept
also where the run stops.
-/

import Mathlib.Control.Monad.Writer
import PluralForms.Proofs.Recognizer.Parallel
import PluralForms.Proofs.Recognizer.Running

namespace PluralForms.Recognizer

open Text

section Bare

variable {ν : Type}

mutual

/-- The recogniser with its actions taken out. -/
def bare : Recognizer ν → Recognizer ν
  | .literal text => .literal text
  | .pattern form => .pattern form
  | .sequence items => .sequence (bareAll items)
  | .choice items => .choice (bareAll items)
  | .repetition item least most => .repetition item.bare least most
  | .acting item _ => item.bare
  | .deferred label => .deferred label
termination_by structural recognizer => recognizer

/-- Recognisers with their actions taken out. -/
def bareAll : List (Recognizer ν) → List (Recognizer ν)
  | [] => []
  | item :: rest => item.bare :: bareAll rest
termination_by structural items => items

end

/-- An action that keeps every value. -/
def keeping {m : Type → Type} [Monad m] (_ : Action) (value : Value) : m (Option Value) :=
  pure (some value)

variable {m : Type → Type} [Monad m] [MonadExceptOf Stop m]

mutual

/-- To take actions out is to have them keep every value. -/
theorem run_bare [LawfulMonad m] (handlers : Handlers ν m) :
    ∀ (recognizer : Recognizer ν) (place : Place),
    run handlers recognizer.bare place = run ⟨keeping, handlers.force⟩ recognizer place
  | .literal _, _ => rfl
  | .pattern _, _ => rfl
  | .sequence items, place => by
      rw [bare, run, run, runAll_bare handlers items place]
  | .choice items, place => by
      rw [bare, run, run, runFirst_bare handlers items place]
  | .repetition item least most, place => by
      have steps : run handlers item.bare = run ⟨keeping, handlers.force⟩ item :=
        funext (run_bare handlers item)
      rw [bare, run, run]
      exact congrArg (repeated · least most place) steps
  | .acting item action, place => by
      rw [bare, run_bare handlers item place]
      calc
        run ⟨keeping, handlers.force⟩ item place =
            run ⟨keeping, handlers.force⟩ item place >>= pure := (bind_pure _).symm
        _ = run ⟨keeping, handlers.force⟩ (.acting item action) place := by
          rw [run]
          refine bind_congr fun result => ?_
          cases result with
          | none => rfl
          | some found => simp only [keeping, pure_bind, Option.map_some]
  | .deferred _, _ => rfl
termination_by structural recognizer => recognizer

theorem runAll_bare [LawfulMonad m] (handlers : Handlers ν m) :
    ∀ (items : List (Recognizer ν)) (place : Place),
    runAll handlers (bareAll items) place = runAll ⟨keeping, handlers.force⟩ items place
  | [], _ => rfl
  | item :: rest, place => by
      rw [bareAll, runAll, runAll, run_bare handlers item place]
      refine bind_congr fun result => ?_
      cases result with
      | none => rfl
      | some found => dsimp only; rw [runAll_bare handlers rest found.place]
termination_by structural items => items

theorem runFirst_bare [LawfulMonad m] (handlers : Handlers ν m) :
    ∀ (items : List (Recognizer ν)) (place : Place),
    runFirst handlers (bareAll items) place = runFirst ⟨keeping, handlers.force⟩ items place
  | [], _ => rfl
  | item :: rest, place => by
      rw [bareAll, runFirst, runFirst, run_bare handlers item place,
        runFirst_bare handlers rest place]
termination_by structural items => items

end

end Bare

mutual

/-- References are numbered alike with actions and without. -/
theorem number_bare : ∀ (recognizer : Recognizer String) (next : Nat),
    recognizer.bare.number next = ((recognizer.number next).1.bare, (recognizer.number next).2)
  | .literal _, _ => rfl
  | .pattern _, _ => rfl
  | .sequence items, next => by
      rw [bare, number, numberAll_bare items next]
      rfl
  | .choice items, next => by
      rw [bare, number, numberAll_bare items next]
      rfl
  | .repetition item _ _, next => by
      rw [bare, number, number_bare item next]
      rfl
  | .acting item _, next => number_bare item next
  | .deferred _, _ => rfl
termination_by structural recognizer => recognizer

theorem numberAll_bare : ∀ (items : List (Recognizer String)) (next : Nat),
    numberAll (bareAll items) next = (bareAll (numberAll items next).1, (numberAll items next).2)
  | [], _ => rfl
  | item :: rest, next => by
      rw [bareAll, numberAll, number_bare item next]
      dsimp only
      rw [numberAll_bare rest (item.number next).2]
      rfl
termination_by structural items => items

end

/-- Definitions under their names, with their actions taken out. -/
def bareEntries {κ ν : Type} (entries : List (κ × Recognizer ν)) : List (κ × Recognizer ν) :=
  entries.map fun entry => (entry.1, entry.2.bare)

theorem lookup_bareEntries {κ ν : Type} [BEq κ] (entries : List (κ × Recognizer ν)) (key : κ) :
    (bareEntries entries).lookup key = (entries.lookup key).map bare := by
  induction entries with
  | nil => rfl
  | cons entry rest ih =>
      rw [bareEntries, List.map_cons, List.lookup_cons, List.lookup_cons]
      split
      · rfl
      · exact ih

namespace System

/-- The system with its actions taken out, also from its definitions. -/
def bare {ν : Type} (system : System ν) : System ν :=
  ⟨system.start.bare, bareEntries system.definitions⟩

theorem numberDefinitions_bare (definitions : List (String × Recognizer String)) (next : Nat) :
    numberDefinitions (bareEntries definitions) next =
      (bareEntries (numberDefinitions definitions next).1,
        (numberDefinitions definitions next).2) := by
  induction definitions generalizing next with
  | nil => rfl
  | cons entry rest ih =>
      have unfolded :
          bareEntries (entry :: rest) = (entry.1, entry.2.bare) :: bareEntries rest := rfl
      rw [unfolded, numberDefinitions, number_bare]
      dsimp only
      rw [ih]
      rfl

theorem labelled_bare (system : System String) : system.bare.labelled = system.labelled.bare := by
  unfold labelled bare
  rw [number_bare]
  dsimp only
  rw [numberDefinitions_bare]

theorem depthBound_bare (system : System String) (place : Place) :
    system.bare.depthBound place = system.depthBound place := by
  have same : system.bare.references = system.references := by
    unfold references bare
    rw [number_bare, numberDefinitions_bare]
  rw [depthBound, depthBound, same]

theorem definition_bare (system : System Label) (label : Label) :
    system.bare.definition label = (system.definition label).map Recognizer.bare := by
  unfold definition bare
  rw [lookup_bareEntries]
  cases system.definitions.lookup label.name <;> rfl

end System

/-- The memory of references to definitions without actions. -/
def Memory.bare (memory : Memory) : Memory :=
  ⟨bareEntries memory.kept, memory.lookUps⟩

/-- The second memory keeps without actions what the first one keeps. -/
def Memory.IsBared (memory memory' : Memory) : Prop :=
  memory' = memory.bare

theorem parallel_consult_bare (system : System Label) (label : Label) :
    Parallel Memory.IsBared
      (fun definition definition' => definition' = definition.bare) (consult system label)
      (consult system.bare label) := by
  rintro before _ rfl
  rw [consult_eq, consult_eq, Memory.bare, lookup_bareEntries, System.definition_bare]
  cases before.kept.lookup label.node with
  | some definition => exact .returned rfl rfl
  | none =>
      cases system.definition label with
      | ok definition => exact .returned rfl rfl
      | error stop => exact .stopped stop

/-- A bare system goes in parallel with actions that keep every value. -/
theorem parallel_bare (system : System Label) (act : Action → Value → Run (Option Value))
    (depth : Nat) (recognizer : Recognizer Label) (place : Place) :
    Parallel Memory.IsBared Eq
      (runToDepth keeping (consult system) depth recognizer place)
      (runToDepth act (consult system.bare) depth recognizer.bare place) := by
  have acts (action : Action) (value : Value) :
      Parallel Memory.IsBared Eq (keeping action value) (keeping action value) := .pure rfl
  induction depth generalizing recognizer place with
  | zero =>
      unfold runToDepth
      rw [run_bare]
      change (Comparison.parallel Memory.IsBared).Holds _ _ _
      exact Comparison.holds_run_eq acts (fun _ _ _ => Parallel.throw .endless) recognizer
        (fun _ _ => trivial) place
  | succ depth ih =>
      unfold runToDepth
      rw [run_bare]
      change (Comparison.parallel Memory.IsBared).Holds _ _ _
      refine Comparison.holds_run_eq acts ?_ recognizer (fun _ _ => trivial) place
      intro label _ here
      refine (parallel_consult_bare system label).bind ?_
      rintro definition _ rfl
      exact ih definition here

/-- What an action was performed on. -/
structure Application where
  action : Action
  value : Value

/-- The action makes something of the value. -/
def Application.isAccepted (act : Action → Value → Except Stop (Option Value))
    (application : Application) : Bool :=
  match act application.action application.value with
  | .ok (some _) => true
  | .ok none => false
  | .error _ => false

/-- A run beside which the applications of actions are noted, also if it stops. -/
abbrev NotedRun : Type → Type :=
  StateT Memory (ExceptT Stop (Writer (List Application)))

/-- Performs an action and notes the application. -/
def noting (act : Action → Value → Except Stop (Option Value)) (action : Action)
    (value : Value) : NotedRun (Option Value) :=
  fun before => ExceptT.mk (WriterT.mk ((act action value).map (·, before), [⟨action, value⟩]))

/-- A run that performs no action, so that there is nothing to note. -/
def unnoted {α : Type} (run : Run α) : NotedRun α :=
  fun before => ExceptT.mk (WriterT.mk (run before, []))

/-- What the run comes to, and the applications of actions in it, one after another. -/
def NotedRun.observed {α : Type} (run : NotedRun α) (before : Memory) :
    Except Stop (α × Memory) × List Application :=
  (run before).run.run

theorem observed_bind {α β : Type} (run : NotedRun α) (next : α → NotedRun β) (before : Memory) :
    NotedRun.observed (run >>= next) before =
      match NotedRun.observed run before with
      | (.ok step, early) =>
          let (outcome, late) := NotedRun.observed (next step.1) step.2
          (outcome, early ++ late)
      | (.error stop, early) => (.error stop, early) := by
  have unfolded : NotedRun.observed (run >>= next) before =
      match ExceptT.bindCont (fun step => next step.1 step.2) (NotedRun.observed run before).1 with
      | late => (late.run.1, (NotedRun.observed run before).2 ++ late.run.2) := rfl
  rw [unfolded]
  rcases NotedRun.observed run before with ⟨stop | step, early⟩
  · exact congrArg _ (List.append_nil early)
  · rfl

/-- If all applications that are noted meet a condition, the runs do the same. -/
def Comparison.noted (condition : Application → Prop) : Comparison NotedRun Run where
  Holds results run run' := ∀ before,
    (∀ application ∈ (NotedRun.observed run before).2, condition application) →
      Outcomes Eq results (NotedRun.observed run before).1 (run' before)
  pure alike _ _ := .returned alike rfl
  throw stop _ _ := .stopped stop
  bind {_ _ _ _ _ others run run' next next'} first rest := by
    intro before met
    rw [observed_bind] at met ⊢
    show Outcomes Eq others _ (run' before >>= fun step => next' step.1 step.2)
    have early := first before
    generalize NotedRun.observed run before = observed at met early ⊢
    generalize run' before = outcome' at early ⊢
    rcases observed with ⟨stop | step, applications⟩
    · -- Behind a stop nothing more is noted.
      have outcomes := early met
      cases outcomes with
      | stopped stop => exact .stopped stop
    · have outcomes := early fun application isNoted =>
        met application (List.mem_append_left _ isNoted)
      cases outcomes with
      | @returned _ _ after _ alike together =>
          obtain rfl := together
          exact rest _ _ alike after fun application isNoted =>
            met application (List.mem_append_right _ isNoted)

section Noted

variable {condition : Application → Prop} {act : Action → Value → Except Stop (Option Value)}

theorem noted_unnoted {α : Type} {results : α → α → Prop} (refl : ∀ result, results result result)
    (run : Run α) : (Comparison.noted condition).Holds results (unnoted run) run :=
  fun before _ => (Parallel.refl run before before rfl).mono
    (fun result _ same => same ▸ refl result) fun _ _ => id

/-- Noting the applications of actions changes nothing. -/
theorem noted_noting (action : Action) (value : Value) :
    (Comparison.noted condition).Holds Eq (noting act action value) (inRun act action value) := by
  intro before _
  show Outcomes Eq Eq ((act action value).map (·, before)) _
  unfold inRun
  cases act action value with
  | ok made => exact .returned rfl rfl
  | error stop => exact .stopped stop

/-- Where the action is accepted, it may as well keep the value. -/
theorem noted_keeping (action : Action) (value value' : Value) :
    (Comparison.noted fun application => application.isAccepted act = true).Holds
      (Option.Rel fun _ _ => True) (noting act action value) (keeping action value') := by
  intro before met
  have accepted : Application.isAccepted act ⟨action, value⟩ = true := met _ List.mem_cons_self
  show Outcomes Eq _ ((act action value).map (·, before)) _
  unfold Application.isAccepted at accepted
  split at accepted
  next made isMade =>
    rw [isMade]
    exact .returned (.some trivial) rfl
  · cases accepted
  · cases accepted

variable (act) in
/-- Runs a recogniser and notes the applications of its actions. -/
def runNoting (system : System Label) (depth : Nat) (recognizer : Recognizer Label)
    (place : Place) : NotedRun (Option Match) :=
  runToDepth (noting act) (fun label => unnoted (consult system label)) depth recognizer place

variable (condition) in
/-- A run in which applications are noted does the same as a run whose actions compare with
those, as far as the condition on the applications says so. -/
theorem outcomes_of_noted {values : Value → Value → Prop} (lists : KeptByLists values)
    {act' : Action → Value → Run (Option Value)}
    (acts : ∀ action {value value'}, values value value' →
      (Comparison.noted condition).Holds (Option.Rel values) (noting act action value)
        (act' action value'))
    (system : System Label) (depth : Nat) (recognizer : Recognizer Label) (place : Place)
    {before : Memory}
    (met : ∀ application ∈ ((runNoting act system depth recognizer place).observed before).2,
      condition application) :
    Outcomes Eq (Option.Rel (Match.Compares Eq values))
      ((runNoting act system depth recognizer place).observed before).1
      (runToDepth act' (consult system) depth recognizer place before) :=
  (Comparison.noted condition).holds_runToDepth lists keptByMatching_eq acts
    (fun label _ => noted_unnoted (fun _ => ⟨rfl, fun _ _ => trivial⟩) (consult system label))
    depth recognizer (fun _ _ => trivial) rfl before met

end Noted

/-- The places that a run comes to, without the values that it makes of what is there. -/
def placeFound (outcome : Except Stop (Option Match × Memory)) : Except Stop (Option Place) :=
  outcome.map fun step => step.1.map Match.place

theorem placeFound_eq_of_outcomes {states : Memory → Memory → Prop} {values : Value → Value → Prop}
    {outcome outcome' : Except Stop (Option Match × Memory)}
    (outcomes : Outcomes states (Option.Rel (Match.Compares Eq values)) outcome outcome') :
    placeFound outcome = placeFound outcome' := by
  cases outcomes with
  | stopped stop => rfl
  | returned alike together =>
      cases alike with
      | none => rfl
      | some compares => exact congrArg (Except.ok ∘ some) compares.place

/-- Noting which actions are performed changes nothing about a run.  If all of them are accepted,
the run comes to the same as the one of the system without its actions, whatever they make of
their values. -/
theorem found_alike_without_actions (system : System String)
    (act : Action → Value → Except Stop (Option Value)) (depth : Nat) (place : Place)
    (before : Memory) :
    let outcome := runToDepth (inRun act) (consult system.labelled) depth system.labelled.start
      place before
    let observed := (runNoting act system.labelled depth system.labelled.start place).observed
      before
    observed.1 = outcome ∧
      ((∀ application ∈ observed.2, application.isAccepted act = true) →
        placeFound outcome = placeFound (runToDepth (inRun act) (consult system.bare.labelled) depth
          system.bare.labelled.start place before.bare)) := by
  intro outcome observed
  have erased : observed.1 = outcome := by
    have outcomes : Outcomes Eq (Option.Rel (Match.Compares Eq Eq)) observed.1 outcome := by
      refine outcomes_of_noted (fun _ => True) keptByLists_eq ?_ system.labelled depth
        system.labelled.start place fun _ _ => trivial
      rintro action value _ rfl
      rw [rel_eq]
      exact noted_noting action value
    rw [rel_compares_eq] at outcomes
    exact eq_of_outcomes outcomes
  refine ⟨erased, fun accepted => ?_⟩
  have kept := outcomes_of_noted _ keptByLists_any
    (fun action value value' _ => noted_keeping action value value')
    system.labelled depth system.labelled.start place accepted
  have bared := parallel_bare system.labelled (inRun act) depth system.labelled.start place before
    before.bare rfl
  rw [← rel_compares_eq] at bared
  calc
    placeFound outcome = placeFound observed.1 := by rw [erased]
    _ = placeFound (runToDepth keeping (consult system.labelled) depth system.labelled.start place
        before) := placeFound_eq_of_outcomes kept
    _ = placeFound (runToDepth (inRun act) (consult system.bare.labelled) depth
        system.bare.labelled.start place before.bare) := by
      rw [System.labelled_bare]
      exact placeFound_eq_of_outcomes bared

/-- A list of items that all come to a value which means nothing, and so do its rests. -/
theorem found_alike_without_actions_of_falsy :
    let zero : Recognizer String := .acting (.pattern ⟨[.digit], 1, none⟩) .toNumber
    let no : Recognizer String := .acting (.literal ['n']) (.replace (.truth false))
    let gap : Recognizer String :=
      .acting (.acting (.optional (.literal [' '])) .toLength) (.replace .nothing)
    let items : Recognizer String := .acting (.sequence [.choice [zero, no, gap],
      .optional (.sequence [.literal [','], .deferred "items"])]) (.replace (.list []))
    let system : System String := ⟨.deferred "items", [("items", items)]⟩
    let place : Place := .ofString "0,n,,00" 0
    let observed := (runNoting perform system.labelled (system.depthBound place)
      system.labelled.start place).observed .empty
    (∀ application ∈ observed.2, application.isAccepted perform = true) ∧
      observed.2.length = 9 ∧
      placeFound (system.run place .empty) = placeFound (system.bare.run place .empty) ∧
      (placeFound (system.run place .empty)).toOption.map (·.map Place.offset) = some (some 7) := by
  intro zero no gap items system place observed
  have accepted : observed.2.all (·.isAccepted perform) = true := by decide +kernel
  rw [List.all_eq_true] at accepted
  obtain ⟨-, alike⟩ := found_alike_without_actions system perform (system.depthBound place) place
    .empty
  refine ⟨accepted, by decide +kernel, ?_, by decide +kernel⟩
  rw [System.run, System.run, System.depthBound_bare, perform_eq_inRun]
  exact alike accepted

end PluralForms.Recognizer
