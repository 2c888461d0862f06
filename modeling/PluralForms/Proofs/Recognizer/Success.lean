/-
# How a recogniser succeeds

A success of a recogniser is made up of successes of its parts, each of which starts where the
one before it ended.  An alternative starts where the choice does, so whatever was tried and
failed before it leaves no trace.

From a place on a text, a success therefore leads onward: it ends on the same text, not before
that place and not past the end.
-/

import PluralForms.Recognizer.Run

namespace PluralForms

namespace Text.Place

/-- The second place is on the same text, not before the first one and not past the end. -/
structure Onward (start last : Place) : Prop where
  sameText : last.text = start.text
  notBack : start.offset ≤ last.offset
  notPast : last.offset ≤ start.text.length

theorem Onward.refl {place : Place} (inside : place.Inside) : place.Onward place :=
  ⟨rfl, Int.le_refl _, inside.2⟩

theorem Onward.trans {start middle last : Place} (first : start.Onward middle)
    (second : middle.Onward last) : start.Onward last where
  sameText := second.sameText.trans first.sameText
  notBack := Int.le_trans first.notBack second.notBack
  notPast := first.sameText ▸ second.notPast

theorem Onward.inside {start last : Place} (onward : start.Onward last) (inside : start.Inside) :
    last.Inside :=
  ⟨Int.le_trans inside.1 onward.notBack, onward.sameText.symm ▸ onward.notPast⟩

/-- Advancing leads onward, however far it would go. -/
theorem onward_advance {place : Place} (inside : place.Inside) {count : Int} (nonneg : 0 ≤ count) :
    place.Onward (place.advance count) where
  sameText := rfl
  notBack := Int.le_min.2 ⟨Int.le_add_of_nonneg_right nonneg, inside.2⟩
  notPast := Int.min_le_right _ _

end Text.Place

namespace Recognizer

open Text

/-- How a recogniser comes to a success, given the definitions that references keep and what
actions make of values. -/
inductive Yields {ν : Type} (keeps : ν → Recognizer ν → Prop)
    (makes : Action → Value → Value → Prop) : Recognizer ν → Place → Match → Prop
  | literal {text : List Char} {start : Place} {found : Match}
      (here : matchLiteral text start = some found) :
      Yields keeps makes (.literal text) start found
  | pattern {form : Pattern} {start : Place} {found : Match}
      (here : matchPattern form start = some found) :
      Yields keeps makes (.pattern form) start found
  | nothing {start : Place} : Yields keeps makes (.sequence []) start ⟨.list [], start⟩
  | next {item : Recognizer ν} {rest : List (Recognizer ν)} {start last : Place} {first : Match}
      {values : List Value} (head : Yields keeps makes item start first)
      (others : Yields keeps makes (.sequence rest) first.place ⟨.list values, last⟩) :
      Yields keeps makes (.sequence (item :: rest)) start ⟨.list (first.value :: values), last⟩
  | chosen {item : Recognizer ν} {items : List (Recognizer ν)} {start : Place} {found : Match}
      (offered : item ∈ items) (success : Yields keeps makes item start found) :
      Yields keeps makes (.choice items) start found
  | enough {item : Recognizer ν} {least : Int} {most : Option Int} {start : Place}
      (reached : least ≤ 0) :
      Yields keeps makes (.repetition item least most) start ⟨.list [], start⟩
  | again {item : Recognizer ν} {least : Int} {most : Option Int} {start last : Place}
      {first : Match} {values : List Value} (allowed : most.any (· ≤ 0) = false)
      (head : Yields keeps makes item start first)
      (others : Yields keeps makes (.repetition item (least - 1) (most.map (· - 1))) first.place
        ⟨.list values, last⟩) :
      Yields keeps makes (.repetition item least most) start
        ⟨.list (first.value :: values), last⟩
  | acted {item : Recognizer ν} {action : Action} {start : Place} {found : Match} {value : Value}
      (success : Yields keeps makes item start found) (made : makes action found.value value) :
      Yields keeps makes (.acting item action) start ⟨value, found.place⟩
  | followed {label : ν} {definition : Recognizer ν} {start : Place} {found : Match}
      (kept : keeps label definition) (success : Yields keeps makes definition start found) :
      Yields keeps makes (.deferred label) start found

/-- A literal leads onward by its length. -/
theorem onward_of_matchLiteral {text : List Char} {start : Place} {found : Match}
    (here : matchLiteral text start = some found) (inside : start.Inside) :
    start.Onward found.place := by
  unfold matchLiteral at here
  split at here
  · cases here
    exact Place.onward_advance inside (Int.natCast_nonneg _)
  · cases here

/-- On the text, a pattern is tried where the place is. -/
theorem patternStart_eq_offset {place : Place} (inside : place.Inside) :
    (patternStart place : Int) = place.offset := by
  obtain ⟨lower, upper⟩ := inside
  unfold patternStart
  omega

/-- A pattern leads onward by as many characters as it takes. -/
theorem onward_of_matchPattern {form : Pattern} {start : Place} {found : Match}
    (here : matchPattern form start = some found) (inside : start.Inside) :
    start.Onward found.place := by
  have sameStart := patternStart_eq_offset inside
  simp only [matchPattern] at here
  split at here
  · cases here
  next extent _ =>
    split at here
    · cases here
    · cases here
      refine Place.onward_advance inside ?_
      rw [sameStart]
      omega

/-- A success leads onward.  The places of its parts follow one another, so each of them is on
the text because the one before it is. -/
theorem Yields.onward {ν : Type} {keeps : ν → Recognizer ν → Prop}
    {makes : Action → Value → Value → Prop} {recognizer : Recognizer ν} {start : Place}
    {found : Match} (yields : Yields keeps makes recognizer start found) (inside : start.Inside) :
    start.Onward found.place := by
  induction yields with
  | literal here => exact onward_of_matchLiteral here inside
  | pattern here => exact onward_of_matchPattern here inside
  | nothing => exact .refl inside
  | next _ _ head others =>
      have first := head inside
      exact first.trans (others (first.inside inside))
  | chosen _ _ success => exact success inside
  | enough => exact .refl inside
  | again _ _ _ head others =>
      have first := head inside
      exact first.trans (others (first.inside inside))
  | acted _ _ success => exact success inside
  | followed _ _ success => exact success inside

/-- A success that passes a test was returned. -/
theorem exists_returned_of_any {σ : Type} {outcome : Except Stop (Option Match × σ)}
    {test : Match → Bool} (passes : (outcome.toOption.bind Prod.fst).any test = true) :
    ∃ found after, outcome = .ok (some found, after) ∧ test found = true := by
  rcases outcome with stop | ⟨_ | found, after⟩
  · cases passes
  · cases passes
  · exact ⟨found, after, rfl, passes⟩

end Recognizer

end PluralForms
