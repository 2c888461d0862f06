/-
# Repetition

A repetition takes successes of a step one after another, each from where the one before it
ended.  It is over when there are as many as there may be, or when the last one has not moved;
otherwise the step is taken once more, and the repetition ends if that fails.

A step that only leads onward moves at most once for each character ahead.  So it is taken at
most once more than there are characters, and the repetition ends, whatever bounds it has.
-/

import PluralForms.Proofs.Recognizer.Running

namespace PluralForms.Recognizer

open Text

/-- The place after the last success, or the start if there is none. -/
def placeAfter (start : Place) (taken : List Match) : Place :=
  (taken.getLast?.map Match.place).getD start

@[simp]
theorem placeAfter_nil (start : Place) : placeAfter start [] = start := rfl

@[simp]
theorem placeAfter_append (start : Place) (taken : List Match) (found : Match) :
    placeAfter start (taken ++ [found]) = found.place := by
  simp [placeAfter]

/-- There are as many successes as there may be. -/
def IsFull (most : Option Int) (taken : List Match) : Prop :=
  ∃ limit, most = some limit ∧ limit ≤ taken.length

/-- The last success has not moved. -/
def IsStalled (start : Place) (taken : List Match) : Prop :=
  ∃ earlier last, taken = earlier ++ [last] ∧
    last.place.offset = (placeAfter start earlier).offset

theorem not_isStalled_nil (start : Place) : ¬ IsStalled start [] := by
  rintro ⟨earlier, last, isEmpty, -⟩
  cases earlier <;> cases isEmpty

theorem isStalled_append_iff {start : Place} {taken : List Match} {found : Match} :
    IsStalled start (taken ++ [found]) ↔
      found.place.offset = (placeAfter start taken).offset := by
  constructor
  · rintro ⟨earlier, last, same, stays⟩
    obtain ⟨rfl, isLast⟩ := List.append_inj' same rfl
    cases isLast
    exact stays
  · exact fun stays => ⟨taken, found, rfl, stays⟩

/-- The step is taken again: there may be more successes, and the last one has moved. -/
structure GoesOn (most : Option Int) (start : Place) (taken : List Match) : Prop where
  room : ¬ IsFull most taken
  moved : ¬ IsStalled start taken

section Chain

variable {σ : Type} (step : Place → StateT σ (Except Stop) (Option Match)) (most : Option Int)
  (start : Place) (before : σ)

/-- Successes of a step one after another, as long as it is taken again, and the state after
them. -/
inductive Successes : List Match → σ → Prop
  | none : Successes [] before
  | next {taken : List Match} {found : Match} {reached after : σ}
      (successes : Successes taken reached) (goesOn : GoesOn most start taken)
      (success : step (placeAfter start taken) reached = .ok (some found, after)) :
      Successes (taken ++ [found]) after

/-- All successes that a repetition takes, the state in the end, and how often the step is
taken.  A step that gives no answer stops the repetition too. -/
inductive EndsWith : List Match → Except Stop σ → Nat → Prop
  | full {taken : List Match} {reached : σ}
      (successes : Successes step most start before taken reached) (full : IsFull most taken) :
      EndsWith taken (.ok reached) taken.length
  | stalled {taken : List Match} {reached : σ}
      (successes : Successes step most start before taken reached)
      (stalled : IsStalled start taken) : EndsWith taken (.ok reached) taken.length
  | failed {taken : List Match} {reached after : σ}
      (successes : Successes step most start before taken reached)
      (goesOn : GoesOn most start taken)
      (failure : step (placeAfter start taken) reached = .ok (none, after)) :
      EndsWith taken (.ok after) (taken.length + 1)
  | stopped {taken : List Match} {reached : σ} {stop : Stop}
      (successes : Successes step most start before taken reached)
      (goesOn : GoesOn most start taken)
      (stops : step (placeAfter start taken) reached = .error stop) :
      EndsWith taken (.error stop) (taken.length + 1)

end Chain

section Iterating

variable {σ : Type} {step : Place → StateT σ (Except Stop) (Option Match)} {most : Option Int}
variable {start : Place} {before after : σ}

/-- What the successes from a place amount to behind others. -/
def behindTaken (taken : List Match) (rest : (List Value × Place) × σ) :
    (List Value × Place) × σ :=
  ((taken.map Match.value ++ rest.1.1, rest.1.2), rest.2)

theorem map_behindTaken_nil (rest : Except Stop ((List Value × Place) × σ)) :
    rest.map (behindTaken []) = rest := by
  cases rest <;> rfl

theorem map_behindTaken_append (taken : List Match) (found : Match)
    (rest : Except Stop ((List Value × Place) × σ)) :
    (rest.map (behindTaken [found])).map (behindTaken taken) =
      rest.map (behindTaken (taken ++ [found])) := by
  cases rest with
  | ok rest => simp [Except.map, behindTaken]
  | error stop => rfl

theorem iterate_of_full (budget : Nat) (full : most.any (· ≤ 0) = true) :
    iterate step budget most start before = .ok (([], start), before) := by
  unfold iterate
  rw [if_pos full]
  rfl

section Step

variable (budget : Nat) (room : ¬ most.any (· ≤ 0) = true)

include room

theorem iterate_of_stopped {stop : Stop} (stops : step start before = .error stop) :
    iterate step (budget + 1) most start before = .error stop := by
  rw [iterate, if_neg room]
  show step start before >>= _ = _
  rw [stops]
  rfl

theorem iterate_of_failed (failure : step start before = .ok (none, after)) :
    iterate step (budget + 1) most start before = .ok (([], start), after) := by
  rw [iterate, if_neg room]
  show step start before >>= _ = _
  rw [failure]
  rfl

variable {found : Match} (success : step start before = .ok (some found, after))

include success

theorem iterate_of_stalled (stays : found.place.offset = start.offset) :
    iterate step (budget + 1) most start before =
      .ok (([found.value], found.place), after) := by
  rw [iterate, if_neg room]
  show step start before >>= _ = _
  rw [success]
  show (if _ then _ else _ : StateT σ (Except Stop) (List Value × Place)) after = _
  rw [if_pos stays]
  rfl

theorem iterate_of_moved (moves : found.place.offset ≠ start.offset) :
    iterate step (budget + 1) most start before =
      (iterate step budget (most.map (· - 1)) found.place after).map (behindTaken [found]) := by
  rw [iterate, if_neg room]
  show step start before >>= _ = _
  rw [success]
  show (if _ then _ else _ : StateT σ (Except Stop) (List Value × Place)) after = _
  rw [if_neg moves]
  show iterate step budget _ found.place after >>= _ = _
  cases iterate step budget (most.map (· - 1)) found.place after <;> rfl

end Step

/-- What is left of a bound is used up exactly when there are as many successes as it says. -/
theorem any_remaining_iff (taken : List Match) :
    (most.map (· - (taken.length : Int))).any (· ≤ 0) = true ↔ IsFull most taken := by
  cases most with
  | none => simp [IsFull]
  | some limit =>
      have usedUp : limit - (taken.length : Int) ≤ 0 ↔ limit ≤ taken.length := by omega
      simp [IsFull, usedUp]

/-- One success more uses up one more of the budget. -/
theorem add_length_append (budget : Nat) (taken : List Match) (found : Match) :
    budget + (taken ++ [found]).length = (budget + 1) + taken.length := by
  rw [List.length_append, List.length_singleton]
  omega

variable {taken : List Match} {reached : σ}

/-- Behind successes of which the last one has moved, the repetition goes on from the last. -/
theorem iterate_behind (successes : Successes step most start before taken reached)
    (moved : ¬ IsStalled start taken) (budget : Nat) :
    iterate step (budget + taken.length) most start before =
      (iterate step budget (most.map (· - (taken.length : Int))) (placeAfter start taken)
        reached).map (behindTaken taken) := by
  induction successes generalizing budget with
  | none => simp [map_behindTaken_nil]
  | @next taken found reached after successes goesOn success ih =>
      have remaining : (most.map (· - (taken.length : Int))).map (· - 1) =
          most.map (· - ((taken ++ [found]).length : Int)) := by
        rw [Option.map_map]
        congr 1
        funext limit
        rw [List.length_append, List.length_singleton]
        simp only [Function.comp]
        omega
      have moves : found.place.offset ≠ (placeAfter start taken).offset :=
        mt isStalled_append_iff.2 moved
      have room := mt (any_remaining_iff taken).1 goesOn.room
      rw [add_length_append, ih goesOn.moved, iterate_of_moved budget room success moves,
        map_behindTaken_append, remaining, placeAfter_append]

theorem iterate_of_isStalled (successes : Successes step most start before taken reached)
    (stalled : IsStalled start taken) (budget : Nat) :
    iterate step (budget + taken.length) most start before =
      .ok ((taken.map Match.value, placeAfter start taken), reached) := by
  cases successes with
  | none => exact absurd stalled (not_isStalled_nil start)
  | @next taken found reached after successes goesOn success =>
      have room := mt (any_remaining_iff taken).1 goesOn.room
      rw [add_length_append, iterate_behind successes goesOn.moved,
        iterate_of_stalled budget room success (isStalled_append_iff.1 stalled)]
      simp [Except.map, behindTaken]

/-- With a large enough budget, the repetition takes all successes and no more. -/
theorem iterate_of_endsWith {outcome : Except Stop σ} {applied : Nat}
    (ends : EndsWith step most start before taken outcome applied) {budget : Nat}
    (enough : taken.length < budget) :
    iterate step budget most start before =
      outcome.map fun after => ((taken.map Match.value, placeAfter start taken), after) := by
  obtain ⟨more, rfl⟩ := Nat.exists_eq_add_of_lt enough
  rw [show taken.length + more + 1 = more + 1 + taken.length by omega]
  cases ends with
  | stalled successes stalled => exact iterate_of_isStalled successes stalled _
  | full successes full =>
      by_cases stalled : IsStalled start taken
      · exact iterate_of_isStalled successes stalled _
      · rw [iterate_behind successes stalled, iterate_of_full _ ((any_remaining_iff taken).2 full)]
        simp [Except.map, behindTaken]
  | failed successes goesOn failure =>
      have room := mt (any_remaining_iff taken).1 goesOn.room
      rw [iterate_behind successes goesOn.moved, iterate_of_failed more room failure]
      simp [Except.map, behindTaken]
  | stopped successes goesOn stops =>
      have room := mt (any_remaining_iff taken).1 goesOn.room
      rw [iterate_behind successes goesOn.moved, iterate_of_stopped more room stops]
      rfl

end Iterating

section Bounds

variable {σ : Type} {step : Place → StateT σ (Except Stop) (Option Match)} {most : Option Int}
variable {start : Place} {before reached : σ} {taken : List Match}

/-- There are never more successes than there may be. -/
theorem Successes.length_le (successes : Successes step most start before taken reached)
    {limit : Int} (bounded : most = some limit) : (taken.length : Int) ≤ max 0 limit := by
  cases successes with
  | none => exact Int.le_max_left _ _
  | @next taken found _ _ _ goesOn _ =>
      have room : ¬ limit ≤ taken.length := fun full => goesOn.room ⟨limit, bounded, full⟩
      rw [List.length_append, List.length_singleton]
      omega

theorem EndsWith.exists_successes {outcome : Except Stop σ} {applied : Nat}
    (ends : EndsWith step most start before taken outcome applied) :
    ∃ reached, Successes step most start before taken reached := by
  cases ends with
  | full successes => exact ⟨_, successes⟩
  | stalled successes => exact ⟨_, successes⟩
  | failed successes => exact ⟨_, successes⟩
  | stopped successes => exact ⟨_, successes⟩

theorem EndsWith.length_le_applied {outcome : Except Stop σ} {applied : Nat}
    (ends : EndsWith step most start before taken outcome applied) : taken.length ≤ applied := by
  cases ends with
  | full => exact Nat.le_refl _
  | stalled => exact Nat.le_refl _
  | failed => exact Nat.le_succ _
  | stopped => exact Nat.le_succ _

/-- No success moves backwards or past the end of the text. -/
def LeadsOnward (step : Place → StateT σ (Except Stop) (Option Match)) : Prop :=
  ∀ here before found after, here.Inside → step here before = .ok (some found, after) →
    here.Onward found.place

variable (leads : LeadsOnward step) (inside : start.Inside)

include leads inside

theorem Successes.onward (successes : Successes step most start before taken reached) :
    start.Onward (placeAfter start taken) := by
  induction successes with
  | none => exact .refl inside
  | next successes goesOn success ih =>
      rw [placeAfter_append]
      exact ih.trans (leads _ _ _ _ (ih.inside inside) success)

/-- As long as they move, successes get past one character each. -/
theorem Successes.offset_le (successes : Successes step most start before taken reached)
    (moved : ¬ IsStalled start taken) :
    start.offset + taken.length ≤ (placeAfter start taken).offset := by
  induction successes with
  | none => simp
  | next successes goesOn success ih =>
      have moves := mt isStalled_append_iff.2 moved
      have insideToo := (successes.onward leads inside).inside inside
      have further := (leads _ _ _ _ insideToo success).notBack
      have earlier := ih goesOn.moved
      rw [placeAfter_append, List.length_append, List.length_singleton]
      omega

/-- Where the step is taken again, there are no more successes than characters ahead. -/
theorem Successes.length_le_ahead (successes : Successes step most start before taken reached)
    (moved : ¬ IsStalled start taken) :
    (taken.length : Int) ≤ start.text.length - start.offset := by
  have further := successes.offset_le leads inside moved
  have notPast := (successes.onward leads inside).notPast
  omega

theorem Successes.length_le_succ_ahead
    (successes : Successes step most start before taken reached) :
    (taken.length : Int) ≤ start.text.length - start.offset + 1 := by
  cases successes with
  | none =>
      have upper := inside.2
      rw [List.length_nil]
      omega
  | next successes goesOn success =>
      have earlier := successes.length_le_ahead leads inside goesOn.moved
      rw [List.length_append, List.length_singleton]
      omega

/-- The step is taken at most once more than there are characters ahead. -/
theorem EndsWith.applied_le {outcome : Except Stop σ} {applied : Nat}
    (ends : EndsWith step most start before taken outcome applied) :
    (applied : Int) ≤ start.text.length - start.offset + 1 := by
  cases ends with
  | full successes full => exact successes.length_le_succ_ahead leads inside
  | stalled successes stalled => exact successes.length_le_succ_ahead leads inside
  | failed successes goesOn failure =>
      have enough := successes.length_le_ahead leads inside goesOn.moved
      omega
  | stopped successes goesOn stops =>
      have enough := successes.length_le_ahead leads inside goesOn.moved
      omega

theorem EndsWith.length_lt_stepBudget {outcome : Except Stop σ} {applied : Nat}
    (ends : EndsWith step most start before taken outcome applied) :
    taken.length < stepBudget start := by
  have bounded := ends.applied_le leads inside
  have counts := ends.length_le_applied
  have upper := inside.2
  unfold stepBudget
  omega

/-- Successes go on until the repetition ends: with each of them that moves, fewer characters
are ahead. -/
theorem Successes.exists_endsWith (successes : Successes step most start before taken reached) :
    ∃ all outcome applied, EndsWith step most start before all outcome applied := by
  obtain ⟨room, isRoom⟩ : ∃ room : Nat,
      (room : Int) = start.text.length - start.offset + 1 - taken.length :=
    ⟨_, Int.toNat_of_nonneg (Int.sub_nonneg_of_le (successes.length_le_succ_ahead leads inside))⟩
  induction room generalizing taken reached with
  | zero =>
      -- So many successes cannot all have moved.
      by_cases stalled : IsStalled start taken
      · exact ⟨_, _, _, .stalled successes stalled⟩
      · have enough := successes.length_le_ahead leads inside stalled
        omega
  | succ room ih =>
      by_cases full : IsFull most taken
      · exact ⟨_, _, _, .full successes full⟩
      by_cases stalled : IsStalled start taken
      · exact ⟨_, _, _, .stalled successes stalled⟩
      have goesOn : GoesOn most start taken := ⟨full, stalled⟩
      rcases taking : step (placeAfter start taken) reached with stop | ⟨_ | found, after⟩
      · exact ⟨_, _, _, .stopped successes goesOn taking⟩
      · exact ⟨_, _, _, .failed successes goesOn taking⟩
      · apply ih (.next successes goesOn taking)
        rw [List.length_append, List.length_singleton]
        omega

end Bounds

section Counting

variable {σ : Type} {step : Place → StateT σ (Except Stop) (Option Match)} {most : Option Int}
variable {start : Place} {before reached : σ} {taken : List Match}

/-- The step, with a count of how often it is taken. -/
def counted (step : Place → StateT σ (Except Stop) (Option Match)) (here : Place) :
    StateT (Nat × σ) (Except Stop) (Option Match) :=
  fun (applied, before) =>
    (step here before).map fun (result, after) => (result, applied + 1, after)

theorem Successes.counted (successes : Successes step most start before taken reached) :
    Successes (counted step) most start (0, before) taken (taken.length, reached) := by
  induction successes with
  | none => exact .none
  | next successes goesOn success ih =>
      rw [List.length_append, List.length_singleton]
      refine .next ih goesOn ?_
      rw [Recognizer.counted, success]
      rfl

/-- Counting changes nothing about a repetition, and finds out how often the step is taken. -/
theorem EndsWith.counted {outcome : Except Stop σ} {applied : Nat}
    (ends : EndsWith step most start before taken outcome applied) :
    EndsWith (counted step) most start (0, before) taken (outcome.map (applied, ·)) applied := by
  cases ends with
  | full successes full => exact .full successes.counted full
  | stalled successes stalled => exact .stalled successes.counted stalled
  | failed successes goesOn failure =>
      refine .failed successes.counted goesOn ?_
      rw [Recognizer.counted, failure]
      rfl
  | stopped successes goesOn stops =>
      refine .stopped successes.counted goesOn ?_
      rw [Recognizer.counted, stops]
      rfl

end Counting

/-- What a repetition makes of its successes: their values and the place after the last one,
if there are enough. -/
def gathered (least : Int) (start : Place) (taken : List Match) : Option Match :=
  if (taken.length : Int) < least then none
  else some ⟨.list (taken.map Match.value), placeAfter start taken⟩

/-- Whatever recognisers are made of, they lead onward. -/
theorem leadsOnward_runToDepth (system : System Label)
    (act : Action → Value → Except Stop (Option Value)) (depth : Nat)
    (recognizer : Recognizer Label) :
    LeadsOnward (runToDepth (inRun act) (consult system) depth recognizer) := by
  intro here before found after inside returned
  obtain ⟨-, arises⟩ := gives_runToDepth after system act depth recognizer here returned
  exact (arises (.refl after) found rfl).onward inside

section Repeated

variable {σ : Type} {step : Place → StateT σ (Except Stop) (Option Match)}
variable {most : Option Int} {start : Place} {before : σ}

theorem repeated_eq (least : Int) :
    repeated step least most start before =
      (iterate step (stepBudget start) most start before).map fun taken =>
        (if (taken.1.1.length : Int) < least then none else some ⟨.list taken.1.1, taken.1.2⟩,
          taken.2) := by
  show iterate step (stepBudget start) most start before >>= _ = _
  cases iterate step (stepBudget start) most start before <;> rfl

theorem repeated_of_endsWith {taken : List Match} {outcome : Except Stop σ} {applied : Nat}
    (ends : EndsWith step most start before taken outcome applied)
    (enough : taken.length < stepBudget start) (least : Int) :
    repeated step least most start before =
      outcome.map fun after => (gathered least start taken, after) := by
  rw [repeated_eq, iterate_of_endsWith ends enough]
  cases outcome with
  | error stop => rfl
  | ok after => simp only [Except.map, List.length_map, gathered]

/-- A repetition of a step that only leads onward ends, and it takes all successes up to its
end and no others.  The step is taken at most once more than there are characters ahead.  The
repetition succeeds if there are enough successes, and so never if it may not have enough; and
what is optional never fails. -/
theorem repeated_takes_all (leads : LeadsOnward step) (inside : start.Inside) (before : σ)
    (least : Int) (most : Option Int) :
    (∃ taken outcome applied, EndsWith step most start before taken outcome applied) ∧
    (∀ taken outcome applied, EndsWith step most start before taken outcome applied →
      (applied : Int) ≤ start.text.length - start.offset + 1 ∧
        repeated step least most start before =
          (outcome.map fun after => (gathered least start taken, after)) ∧
        repeated (counted step) least most start (0, before) =
          (outcome.map fun after => (gathered least start taken, applied, after)) ∧
        ∀ limit, most = some limit → limit < least → 1 ≤ least →
          gathered least start taken = none) ∧
    ∀ {ν : Type} (handlers : Handlers ν (StateT σ (Except Stop))) (item : Recognizer ν)
      (result : Option Match) (after : σ),
      run handlers (optional item) start before = .ok (result, after) → result ≠ none := by
  refine ⟨?_, ?_, ?_⟩
  · exact Successes.exists_endsWith leads inside .none
  · intro taken outcome applied ends
    have enough := ends.length_lt_stepBudget leads inside
    refine ⟨ends.applied_le leads inside, repeated_of_endsWith ends enough least, ?_, ?_⟩
    · rw [repeated_of_endsWith ends.counted enough least]
      cases outcome <;> rfl
    · intro limit bounded few some
      obtain ⟨reached, successes⟩ := ends.exists_successes
      have size := successes.length_le bounded
      rw [gathered, if_pos (by omega)]
  · intro ν handlers item result after returned
    have isRepeated : repeated (run handlers item) 0 (some 1) start before = .ok (result, after) :=
      returned
    rw [repeated_eq] at isRepeated
    cases taking : iterate (run handlers item) (stepBudget start) (some 1) start before with
    | error stop =>
        rw [taking] at isRepeated
        cases isRepeated
    | ok taken =>
        rw [taking, Except.map, if_neg (by omega)] at isRepeated
        cases isRepeated
        exact Option.some_ne_none _

/-- A digit that may be missing, up to five times: two digits are there, and the third success
does not move. -/
theorem repeated_takes_all_of_digits :
    let item : Recognizer Label := optional (.pattern ⟨[.digit], 1, some 1⟩)
    let step : Place → Run (Option Match) :=
      runToDepth (inRun perform) (consult ⟨item, []⟩) 0 item
    let start : Place := .ofString "n 12x" 2
    LeadsOnward step ∧ start.Inside ∧
      ∃ taken after, EndsWith step (some 5) start .empty taken (.ok after) 3 ∧
        taken.length = 3 ∧ (placeAfter start taken).offset = 4 ∧
        repeated step 3 (some 5) start .empty = .ok (gathered 3 start taken, after) := by
  intro item step start
  have leads : LeadsOnward step := leadsOnward_runToDepth _ perform 0 item
  have inside : start.Inside := ⟨by decide, by decide⟩
  obtain ⟨⟨taken, outcome, applied, ends⟩, all, -⟩ :=
    repeated_takes_all leads inside .empty 3 (some 5)
  obtain ⟨-, plain, counts, -⟩ := all taken outcome applied ends
  have computed : (repeated (counted step) 3 (some 5) start (0, .empty)).toOption.map
      (fun answer => (answer.1.map (·.place.offset), answer.2.1)) = some (some 4, 3) := by
    decide +kernel
  rw [counts] at computed
  cases outcome with
  | error stop => cases computed
  | ok after =>
      obtain ⟨isOffset, rfl⟩ : (gathered 3 start taken).map (·.place.offset) = some 4 ∧
          applied = 3 := by
        simpa [Except.map, Except.toOption] using computed
      have few := ends.length_le_applied
      unfold gathered at isOffset
      split at isOffset
      · cases isOffset
      next enough =>
        refine ⟨leads, inside, taken, after, ends, by omega, ?_, plain⟩
        exact Option.some.inj isOffset

end Repeated

end PluralForms.Recognizer
