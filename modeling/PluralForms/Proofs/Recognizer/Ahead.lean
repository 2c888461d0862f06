/-
# What a run sees

A recogniser sees the characters ahead of its place and nothing else.  What is behind the
place might as well not be there: at the beginning of what is ahead, taken as a text of its
own, a run does the same as at the place itself, and comes as much farther as it starts
farther.

On a text, literals and patterns are tried where the place is.  So two places with the same
characters ahead match alike, and so does all that is built from them.
-/

import PluralForms.Proofs.Recognizer.Parallel
import PluralForms.Proofs.Recognizer.Success
import PluralForms.Recognizer.System

namespace PluralForms

namespace Text.Place

/-- As many characters are ahead of a place as it is away from the end of the text. -/
theorem length_ahead {place : Place} (inside : place.Inside) :
    (place.ahead.length : Int) = place.text.length - place.offset := by
  have same := boundary_eq_offset inside
  have upper := inside.2
  rw [ahead, List.length_drop]
  omega

/-- The beginning of what is ahead of a place, as a text of its own. -/
def rest (place : Place) : Place := ⟨place.ahead, 0⟩

/-- Two places where the same characters stand: one on what is ahead of `start`, taken as a
text of its own, the other on the text of `start`. -/
structure OnRest (start place beyond : Place) : Prop where
  text_eq : place.text = start.text
  rest_eq : beyond.text = start.ahead
  offset_eq : place.offset = start.offset + beyond.offset
  inside : beyond.Inside

theorem onRest_rest (start : Place) : start.OnRest start start.rest :=
  ⟨rfl, rfl, (Int.add_zero _).symm, Int.le_refl 0, Int.natCast_nonneg _⟩

namespace OnRest

variable {start place beyond : Place}

theorem inside_left (onRest : start.OnRest place beyond) (inside : start.Inside) :
    place.Inside := by
  obtain ⟨textEq, restEq, offsetEq, lower, upper⟩ := onRest
  have size := length_ahead inside
  obtain ⟨startLower, startUpper⟩ := inside
  rw [restEq] at upper
  constructor
  · omega
  · rw [textEq]
    omega

/-- The same characters are ahead. -/
theorem ahead_eq (onRest : start.OnRest place beyond) (inside : start.Inside) :
    place.ahead = beyond.ahead := by
  have here := boundary_eq_offset (onRest.inside_left inside)
  have beyondHere := boundary_eq_offset onRest.inside
  have startHere := boundary_eq_offset inside
  have offsetEq := onRest.offset_eq
  have sum : place.boundary = start.boundary + beyond.boundary := by omega
  rw [ahead, ahead, onRest.text_eq, onRest.rest_eq, ahead, List.drop_drop, sum]

/-- Advancing as far keeps them together, also where the end of the text is reached. -/
theorem advance (onRest : start.OnRest place beyond) (inside : start.Inside) (count : Nat) :
    start.OnRest (place.advance count) (beyond.advance count) := by
  refine ⟨onRest.text_eq, onRest.rest_eq, ?_, inside_advance onRest.inside count⟩
  have size := length_ahead inside
  have offsetEq := onRest.offset_eq
  simp only [Place.advance, onRest.text_eq, onRest.rest_eq]
  omega

theorem atEnd_eq (onRest : start.OnRest place beyond) (inside : start.Inside) :
    place.atEnd = beyond.atEnd := by
  rw [Bool.eq_iff_iff, atEnd_iff_ahead_eq_nil (onRest.inside_left inside),
    atEnd_iff_ahead_eq_nil onRest.inside, onRest.ahead_eq inside]

end OnRest

end Text.Place

namespace Recognizer

open Text

/-- On the text, a literal is compared with the characters ahead. -/
theorem matchLiteral_eq {place : Place} (inside : place.Inside) (text : List Char) :
    matchLiteral text place =
      if text.isPrefixOf place.ahead then some ⟨.text text, place.advance text.length⟩
      else none := by
  unfold matchLiteral Place.startsWith
  simp only [inside.2, decide_true, Bool.true_and]

/-- On the text, a pattern is tried on the characters ahead, and has to take some. -/
theorem matchPattern_eq {place : Place} (inside : place.Inside) (form : Pattern) :
    matchPattern form place =
      match form.extent place.ahead with
      | none => none
      | some extent =>
          if extent = 0 then none
          else some ⟨.text (place.ahead.take extent), place.advance extent⟩ := by
  have start := patternStart_eq_offset inside
  have here := Place.boundary_eq_offset inside
  have sameStart : patternStart place = place.boundary := by omega
  have stays (extent : Nat) : (place.boundary : Int) + extent = place.offset ↔ extent = 0 := by
    omega
  have distance (extent : Nat) : (place.boundary : Int) + extent - place.offset = extent := by
    omega
  simp only [matchPattern, sameStart, stays, distance]
  rfl

/-- Places with the same characters ahead are matched alike. -/
theorem keptByMatching_onRest {start : Place} (inside : start.Inside) :
    KeptByMatching start.OnRest where
  literal text here there onRest := by
    rw [matchLiteral_eq (onRest.inside_left inside), matchLiteral_eq onRest.inside,
      onRest.ahead_eq inside]
    split
    · exact .some ⟨rfl, onRest.advance inside _⟩
    · exact .none
  pattern form here there onRest := by
    rw [matchPattern_eq (onRest.inside_left inside), matchPattern_eq onRest.inside,
      onRest.ahead_eq inside]
    split
    · exact .none
    · split
      · exact .none
      · exact .some ⟨rfl, onRest.advance inside _⟩
  stepBudget {here there} onRest := by
    have size := Place.length_ahead inside
    have offsetEq := onRest.offset_eq
    unfold Recognizer.stepBudget
    rw [onRest.text_eq, onRest.rest_eq]
    omega
  stays_iff onRest onRest' := by
    have offsetEq := onRest.offset_eq
    have offsetEq' := onRest'.offset_eq
    omega

/-- A success on what is ahead of `start`, as it is found on the text of `start`. -/
def Match.onWhole (start : Place) (found : Match) : Match :=
  ⟨found.value, start.text, start.offset + found.place.offset⟩

/-- The outcome of a run on the text of `start`, given its outcome on what is ahead. -/
def outcomeOnWhole {σ : Type} (start : Place) (outcome : Except Stop (Option Match × σ)) :
    Except Stop (Option Match × σ) :=
  outcome.map fun step => (step.1.map (Match.onWhole start), step.2)

theorem Match.Alike.eq_onWhole {start : Place} {found beyond : Match}
    (alike : found.Alike start.OnRest beyond) : found = beyond.onWhole start := by
  obtain ⟨value, place⟩ := found
  obtain ⟨valueEq, ⟨textEq, -, offsetEq, -⟩⟩ := alike
  obtain ⟨text, offset⟩ := place
  dsimp only at valueEq textEq offsetEq
  rw [valueEq, textEq, offsetEq, Match.onWhole]

/-- Alike outcomes differ only in the text that the success is found on, and both successes
reach the end of their texts or neither does. -/
theorem outcome_eq_onWhole {σ : Type} {start : Place} (inside : start.Inside)
    {outcome beyond : Except Stop (Option Match × σ)}
    (alike : Outcomes Eq (Option.Rel (Match.Alike start.OnRest)) outcome beyond) :
    outcome = outcomeOnWhole start beyond ∧ ∀ found after, beyond = .ok (some found, after) →
      (found.onWhole start).place.atEnd = found.place.atEnd := by
  cases alike with
  | stopped stop => exact ⟨rfl, fun found after isFound => nomatch isFound⟩
  | returned alike together =>
      obtain rfl := together
      cases alike with
      | none => exact ⟨rfl, fun found after isFound => nomatch isFound⟩
      | @some found beyond alike =>
          constructor
          · rw [alike.eq_onWhole]
            rfl
          · rintro _ _ ⟨⟩
            rw [← alike.eq_onWhole]
            exact alike.place.atEnd_eq inside

theorem System.depthBound_rest (system : System String) {place : Place} (inside : place.Inside) :
    system.depthBound place = system.depthBound place.rest := by
  have same := (keptByMatching_onRest inside).stepBudget (Place.onRest_rest place)
  unfold stepBudget at same
  rw [depthBound, depthBound, same]

/-- A run from a place on a text does what it does at the beginning of the characters ahead,
taken as a text of their own.  It stops for the same reason, or fails there too, or finds the
same value, as much farther on as it starts farther on, and at the end of both texts or of
neither.  This is so whatever actions do and however references are looked up, and they leave
the same state. -/
theorem run_sees_ahead {place : Place} (inside : place.Inside) :
    (∀ {ν σ : Type} (act : Action → Value → StateT σ (Except Stop) (Option Value))
        (lookUp : ν → StateT σ (Except Stop) (Recognizer ν)) (depth : Nat)
        (recognizer : Recognizer ν) (before : σ),
      let run (here : Place) := runToDepth act lookUp depth recognizer here before
      run place = outcomeOnWhole place (run place.rest) ∧
        ∀ found after, run place.rest = .ok (some found, after) →
          (found.onWhole place).place.atEnd = found.place.atEnd) ∧
    ∀ (system : System String) (before : Memory),
      system.run place before = outcomeOnWhole place (system.run place.rest before) ∧
        ∀ found after, system.run place.rest before = .ok (some found, after) →
          (found.onWhole place).place.atEnd = found.place.atEnd := by
  have together := Place.onRest_rest place
  have general {ν σ : Type} (act : Action → Value → StateT σ (Except Stop) (Option Value))
      (lookUp : ν → StateT σ (Except Stop) (Recognizer ν)) (depth : Nat)
      (recognizer : Recognizer ν) (before : σ) :=
    outcome_eq_onWhole inside (parallel_runToDepth (keptByMatching_onRest inside)
      (fun action value => .refl (act action value)) (fun label => .refl (lookUp label))
      depth recognizer together before before rfl)
  refine ⟨general, fun system before => ?_⟩
  unfold System.run
  rw [system.depthBound_rest inside]
  exact general perform (consult system.labelled) _ _ before

/-- Nested brackets behind other brackets, found from their own beginning to the end. -/
theorem run_sees_ahead_of_brackets :
    let brackets : Recognizer String := .sequence [.literal ['('],
      .repetition (.deferred "brackets") 0 none, .literal [')']]
    let system : System String := ⟨.deferred "brackets", [("brackets", brackets)]⟩
    let place : Place := .ofString "()(()())" 2
    place.Inside ∧ place.rest = .ofString "(()())" 0 ∧
      ∃ found after, system.run place.rest .empty = .ok (some found, after) ∧
        found.place.offset = 6 ∧ found.place.atEnd = true ∧
        system.run place .empty = .ok (some (found.onWhole place), after) ∧
        (found.onWhole place).place.offset = 8 ∧ (found.onWhole place).place.atEnd = true := by
  intro brackets system place
  have inside : place.Inside := ⟨by decide, by decide⟩
  have passes : ((system.run place.rest .empty).toOption.bind Prod.fst).any
      (fun found => found.place.offset == 6 && found.place.atEnd) = true := by
    decide +kernel
  obtain ⟨found, after, ran, test⟩ := exists_returned_of_any passes
  rw [Bool.and_eq_true, beq_iff_eq] at test
  obtain ⟨offset, ended⟩ := test
  obtain ⟨sameOutcome, sameEnd⟩ := (run_sees_ahead inside).2 system .empty
  rw [ran] at sameOutcome
  refine ⟨inside, rfl, found, after, ran, offset, ended, sameOutcome, ?_, ?_⟩
  · rw [Match.onWhole, offset]
    rfl
  · rw [sameEnd found after ran, ended]

end Recognizer

end PluralForms
