/-
# What a run returns

A run that keeps what its references look up is followed through its steps.  A success that it
returns is made up of successes, with the definitions that the references keep in the end.  So
no run returns a place before its own, past the end, or where an attempt that failed had come
to.
-/

import Mathlib.Data.List.Forall2
import PluralForms.Proofs.Recognizer.Remembering
import PluralForms.Proofs.Recognizer.Success

namespace PluralForms.Recognizer

open Text

section Running

variable {final : Memory} {makes : Action → Value → Value → Prop}

/-- A result that is made up of successes, with the definitions that are kept in the end. -/
def Arises (final : Memory) (makes : Action → Value → Value → Prop)
    (recognizer : Recognizer Label) (start : Place) (result : Option Match) : Prop :=
  ∀ found, result = some found → Yields final.Keeps makes recognizer start found

/-- The steps that succeeded, each from where the one before it ended, make up every repetition
that asks for no more of them. -/
theorem gives_iterate {item : Recognizer Label} {step : Place → Run (Option Match)}
    (steps : ∀ here, Gives final (Arises final makes item here) (step here)) (budget : Nat)
    (most : Option Int) (start : Place) :
    Gives final (fun result => ∀ least : Int, least ≤ result.1.length →
        Yields final.Keeps makes (.repetition item least most) start ⟨.list result.1, result.2⟩)
      (iterate step budget most start) := by
  induction budget generalizing most start with
  | zero =>
      unfold iterate
      split
      · exact .pure fun least reached => .enough reached
      · exact .throw .endless
  | succ budget ih =>
      unfold iterate
      split
      · exact .pure fun least reached => .enough reached
      next allowed =>
        refine .bind (steps start) fun result => ?_
        cases result with
        | none => exact .pure fun _ least reached => .enough reached
        | some first =>
            -- A success that does not move is the last one; otherwise the rest starts behind it.
            dsimp only
            split
            · refine .pure fun arises least reached => ?_
              refine .again (Bool.eq_false_iff.2 allowed) (arises first rfl) (.enough ?_)
              exact Int.sub_nonpos_of_le reached
            · refine .bind (ih (most.map (· - 1)) first.place) fun others => ?_
              refine .pure fun yields arises least reached => ?_
              refine .again (Bool.eq_false_iff.2 allowed) (arises first rfl) (yields _ ?_)
              exact Int.sub_right_le_of_le_add reached

theorem gives_repeated {item : Recognizer Label} {step : Place → Run (Option Match)}
    (steps : ∀ here, Gives final (Arises final makes item here) (step here)) (least : Int)
    (most : Option Int) (start : Place) :
    Gives final (Arises final makes (.repetition item least most) start)
      (repeated step least most start) := by
  refine .bind (gives_iterate steps (stepBudget start) most start) fun result => ?_
  refine .pure fun yields found isFound => ?_
  split at isFound
  · cases isFound
  next enough =>
    cases isFound
    exact yields least (Int.not_lt.1 enough)

/-- Handlers whose actions make of values what they may, and that follow a reference to a
success of the definition that it keeps. -/
structure Sound (final : Memory) (makes : Action → Value → Value → Prop)
    (handlers : Handlers Label Run) : Prop where
  actions : ∀ action value,
    Gives final (fun result => ∀ made, result = some made → makes action value made)
      (handlers.act action value)
  references : ∀ label here,
    Gives final (Arises final makes (.deferred label) here) (handlers.force label here)

variable {handlers : Handlers Label Run}

mutual

/-- With such handlers a run of a recogniser returns what is made up of successes.  An attempt
that fails yields no place, so the next alternative starts where the choice does. -/
theorem gives_run (sound : Sound final makes handlers) :
    ∀ (recognizer : Recognizer Label) (start : Place),
      Gives final (Arises final makes recognizer start) (run handlers recognizer start)
  | .literal text, start => by
      unfold run
      exact .pure fun found here => .literal here
  | .pattern form, start => by
      unfold run
      exact .pure fun found here => .pattern here
  | .sequence items, start => by
      unfold run
      refine .bind (gives_runAll sound items start) fun result => ?_
      refine .pure fun yields found isFound => ?_
      obtain ⟨⟨values, last⟩, isResult, rfl⟩ := Option.map_eq_some_iff.1 isFound
      exact yields _ isResult
  | .choice items, start => by
      unfold run
      exact gives_runFirst sound items start
  | .repetition item least most, start => by
      unfold run
      exact gives_repeated (fun here => gives_run sound item here) least most start
  | .acting item action, start => by
      unfold run
      refine .bind (gives_run sound item start) fun result => ?_
      cases result with
      | none => exact .pure fun _ found isFound => by cases isFound
      | some first =>
          refine .bind (sound.actions action first.value) fun made => ?_
          refine .pure fun makes arises found isFound => ?_
          obtain ⟨value, isValue, rfl⟩ := Option.map_eq_some_iff.1 isFound
          exact .acted (arises first rfl) (makes value isValue)
  | .deferred label, start => by
      unfold run
      exact sound.references label start
termination_by structural recognizer => recognizer

theorem gives_runAll (sound : Sound final makes handlers) :
    ∀ (items : List (Recognizer Label)) (start : Place),
      Gives final (fun result => ∀ taken, result = some taken →
          Yields final.Keeps makes (.sequence items) start ⟨.list taken.1, taken.2⟩)
        (runAll handlers items start)
  | [], start => by
      unfold runAll
      refine .pure fun taken isTaken => ?_
      cases isTaken
      exact .nothing
  | item :: rest, start => by
      unfold runAll
      refine .bind (gives_run sound item start) fun result => ?_
      cases result with
      | none => exact .pure fun _ taken isTaken => by cases isTaken
      | some first =>
          refine .bind (gives_runAll sound rest first.place) fun others => ?_
          refine .pure fun yields arises taken isTaken => ?_
          obtain ⟨⟨values, last⟩, isOthers, rfl⟩ := Option.map_eq_some_iff.1 isTaken
          exact .next (arises first rfl) (yields _ isOthers)
termination_by structural items => items

theorem gives_runFirst (sound : Sound final makes handlers) :
    ∀ (items : List (Recognizer Label)) (start : Place),
      Gives final (Arises final makes (.choice items) start) (runFirst handlers items start)
  | [], start => by
      unfold runFirst
      exact .pure fun found isFound => by cases isFound
  | item :: rest, start => by
      unfold runFirst
      refine .bind (gives_run sound item start) fun result => ?_
      cases result with
      | some first =>
          refine .pure fun arises found isFound => ?_
          exact .chosen List.mem_cons_self (arises found isFound)
      | none =>
          refine (gives_runFirst sound rest start).weaken fun result arises _ found isFound => ?_
          cases arises found isFound with
          | chosen offered success => exact .chosen (List.mem_cons_of_mem _ offered) success
termination_by structural items => items

end

end Running

/-- An action that is performed in a run and looks nothing up there. -/
def inRun (act : Action → Value → Except Stop (Option Value)) (action : Action) (value : Value) :
    Run (Option Value) :=
  liftM (act action value)

/-- What an action makes of a value that it does not reject. -/
def Makes (act : Action → Value → Except Stop (Option Value)) (action : Action)
    (value made : Value) : Prop :=
  act action value = .ok (some made)

theorem perform_eq_inRun : perform = inRun perform := by
  funext action value
  unfold inRun perform
  cases action.apply value <;> rfl

/-- The handlers of a run that follows references to a depth. -/
def handlersToDepth {ν : Type} {m : Type → Type} [Monad m] [MonadExceptOf Stop m]
    (act : Action → Value → m (Option Value)) (lookUp : ν → m (Recognizer ν)) :
    Nat → Handlers ν m
  | 0 => ⟨act, fun _ _ => throw .endless⟩
  | depth + 1 => ⟨act, fun label place => do
      let definition ← lookUp label
      runToDepth act lookUp depth definition place⟩

theorem runToDepth_eq {ν : Type} {m : Type → Type} [Monad m] [MonadExceptOf Stop m]
    (act : Action → Value → m (Option Value)) (lookUp : ν → m (Recognizer ν)) (depth : Nat) :
    runToDepth act lookUp depth = run (handlersToDepth act lookUp depth) := by
  cases depth <;> rfl

section Depth

variable (final : Memory) (system : System Label)
  (act : Action → Value → Except Stop (Option Value))

theorem gives_inRun (action : Action) (value : Value) :
    Gives final (fun result => ∀ made, result = some made → Makes act action value made)
      (inRun act action value) := by
  intro before result after returned
  unfold inRun at returned
  cases outcome : act action value with
  | ok made =>
      rw [outcome] at returned
      cases returned
      exact ⟨.refl _, fun _ _ isMade => outcome.trans (congrArg _ isMade)⟩
  | error stop =>
      rw [outcome] at returned
      cases returned

/-- However deep definitions unfold, references are followed to successes. -/
theorem sound_handlersToDepth (depth : Nat) :
    Sound final (Makes act) (handlersToDepth (inRun act) (consult system) depth) := by
  induction depth with
  | zero => exact ⟨gives_inRun final act, fun _ _ => .throw .endless⟩
  | succ depth ih =>
      refine ⟨gives_inRun final act, fun label here => ?_⟩
      refine .bind (gives_consult final system label) fun definition => ?_
      rw [runToDepth_eq]
      refine (gives_run ih definition here).weaken fun result arises kept found isFound => ?_
      exact .followed kept (arises found isFound)

/-- However deep definitions unfold, what a run returns is made up of successes. -/
theorem gives_runToDepth (depth : Nat) (recognizer : Recognizer Label) (start : Place) :
    Gives final (Arises final (Makes act) recognizer start)
      (runToDepth (inRun act) (consult system) depth recognizer start) := by
  rw [runToDepth_eq]
  exact gives_run (sound_handlersToDepth final system act depth) recognizer start

end Depth

/-- A success that is returned from a place on a text, with whatever actions, definitions and
memory, ends on the same text, not before that place and not past the end.  It is made up of
successes, with the definitions that references keep when the run is over: nothing of an
alternative or a repetition that failed is in it. -/
theorem returned_onward (system : System Label)
    (act : Action → Value → Except Stop (Option Value)) (depth : Nat)
    (recognizer : Recognizer Label) {place : Place} (inside : place.Inside)
    {before after : Memory} {found : Match}
    (returned : runToDepth (inRun act) (consult system) depth recognizer place before =
      .ok (some found, after)) :
    found.place.text = place.text ∧ place.offset ≤ found.place.offset ∧
      found.place.offset ≤ place.text.length ∧
      Yields after.Keeps (Makes act) recognizer place found := by
  obtain ⟨-, arises⟩ := gives_runToDepth after system act depth recognizer place returned
  have yields := arises (.refl after) found rfl
  obtain ⟨sameText, notBack, notPast⟩ := yields.onward inside
  exact ⟨sameText, notBack, notPast, yields⟩

/-- A list of letters and numbers, from a place that is not the start of the text.  Letters are
tried with an exclamation mark behind them at first, and then as a repetition that no text can
satisfy. -/
theorem returned_onward_of_list :
    let letters : Recognizer String := .repetition (.literal ['a']) 1 none
    let number : Recognizer String := .acting (.pattern ⟨[.digit], 1, none⟩) .toNumber
    let item : Recognizer String := .choice [.sequence [letters, .literal ['!']],
      .repetition letters 2 (some 1), number, letters]
    let items : Recognizer String :=
      .sequence [item, .optional (.sequence [.literal [','], .deferred "items"])]
    let system : System String := ⟨.deferred "items", [("items", items)]⟩
    let place : Place := .ofString "n aa,12,b" 2
    place.Inside ∧ ∃ found after, system.run place .empty = .ok (some found, after) ∧
      found.place.offset = 7 ∧ found.place.text = place.text ∧
      Yields after.Keeps (Makes perform) system.labelled.start place found := by
  intro letters number item items system place
  have inside : place.Inside := ⟨by decide, by decide⟩
  have passes : ((system.run place .empty).toOption.bind Prod.fst).any
      (fun found => found.place.offset == 7) = true := by
    decide +kernel
  obtain ⟨found, after, ran, stops⟩ := exists_returned_of_any passes
  have returned := ran
  rw [System.run, perform_eq_inRun] at returned
  obtain ⟨sameText, -, -, yields⟩ := returned_onward _ _ _ _ inside returned
  exact ⟨inside, found, after, ran, eq_of_beq stops, sameText, yields⟩

/-- Successes that a system returns one after another, from places on texts, all lead onward.
They are made up with the definitions that its references keep when the last run is over. -/
theorem gives_runEach (final : Memory) (system : System String) (places : List Place)
    (inside : ∀ place ∈ places, place.Inside) :
    Gives final
      (List.Forall₂ (fun place result => ∀ found, result = some found → place.Onward found.place ∧
        Yields final.Keeps (Makes perform) system.labelled.start place found) places)
      (system.runEach places) := by
  induction places with
  | nil => exact .pure .nil
  | cons place rest ih =>
      obtain ⟨here, insideRest⟩ := List.forall_mem_cons.1 inside
      unfold System.runEach System.run
      rw [perform_eq_inRun]
      refine .bind (gives_runToDepth final _ perform _ _ place) fun result => ?_
      refine .bind (ih insideRest) fun others => .pure fun onward arises => ?_
      refine .cons (fun found isFound => ?_) onward
      have yields := arises found isFound
      exact ⟨yields.onward here, yields⟩

end PluralForms.Recognizer
