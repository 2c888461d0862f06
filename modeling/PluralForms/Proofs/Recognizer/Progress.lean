/-
# Getting on

A pattern takes no more characters than there are.  From a place on the text its success takes
some, and so comes further on, since a success that ends where the place is counts as none.

Outside the text that test is not enough.  There the pattern is tried at the nearer end, which
is not where the place is; a pattern that fits without taking anything then succeeds with no
characters, and comes back to the end from behind it.

What is put together from parts consumes if its shape says that one of them has to get on.
-/

import Mathlib.Logic.Basic
import PluralForms.Proofs.Recognizer.Success

namespace PluralForms.Recognizer

open Text

namespace Pattern

theorem length_of_dropUnit {unit : List CharClass} {text rest : List Char}
    (dropped : dropUnit unit text = some rest) : text.length = rest.length + unit.length := by
  induction unit generalizing text with
  | nil =>
      cases dropped
      rfl
  | cons first others ih =>
      cases text with
      | nil => cases dropped
      | cons c text =>
          rw [dropUnit] at dropped
          split at dropped
          · rw [List.length_cons, ih dropped, List.length_cons, Nat.add_assoc]
          · cases dropped

/-- The units that are counted all stand in the text. -/
theorem countUnits_mul_length_le (unit : List CharClass) (most : Nat) (text : List Char) :
    countUnits unit most text * unit.length ≤ text.length := by
  induction most generalizing text with
  | zero => simp [countUnits]
  | succ most ih =>
      rw [countUnits]
      split
      next rest dropped =>
        have behind := ih rest
        rw [length_of_dropUnit dropped, Nat.succ_mul]
        omega
      · simp

/-- A pattern takes no more characters than the text has. -/
theorem extent_le_length {form : Pattern} {text : List Char} {extent : Nat}
    (fits : form.extent text = some extent) : extent ≤ text.length := by
  rw [Pattern.extent] at fits
  split at fits
  · cases fits
    exact countUnits_mul_length_le _ _ _
  · cases fits

end Pattern

/-- The characters on which a pattern is tried. -/
def patternAhead (place : Place) : List Char :=
  place.text.drop (patternStart place)

theorem length_patternAhead (place : Place) :
    (patternAhead place).length = place.text.length - patternStart place :=
  List.length_drop

/-- A pattern is tried where the place is exactly if the place is on the text. -/
theorem patternStart_eq_offset_iff {place : Place} :
    (patternStart place : Int) = place.offset ↔ place.Inside := by
  refine ⟨fun same => ?_, patternStart_eq_offset⟩
  unfold patternStart at same
  constructor <;> omega

/-- A pattern that fits takes what it fits, from where it is tried; it only must not end where
the place is. -/
theorem matchPattern_of_extent {form : Pattern} {place : Place} {extent : Nat}
    (fits : form.extent (patternAhead place) = some extent) :
    matchPattern form place =
      if (patternStart place + extent : Int) = place.offset then none
      else some ⟨.text ((patternAhead place).take extent),
        ⟨place.text, patternStart place + extent⟩⟩ := by
  have few := Pattern.extent_le_length fits
  rw [length_patternAhead] at few
  have onText : patternStart place ≤ place.text.length := Nat.min_le_right _ _
  have reached : place.advance (patternStart place + extent - place.offset) =
      ⟨place.text, patternStart place + extent⟩ := by
    rw [Place.advance]
    congr 1
    omega
  unfold patternAhead at fits ⊢
  simp only [matchPattern, fits, reached]

theorem matchPattern_of_extent_none {form : Pattern} {place : Place}
    (misfit : form.extent (patternAhead place) = none) : matchPattern form place = none := by
  unfold patternAhead at misfit
  simp only [matchPattern, misfit]

/-- A success that takes some characters and comes further on. -/
structure Match.Advances (found : Match) (start : Place) : Prop where
  takes : ∃ c characters, found.value = .text (c :: characters)
  moves : start.offset < found.place.offset

/-- A pattern that fits some characters takes them and comes further on, wherever the place
is. -/
theorem advances_of_extent_ne_zero {form : Pattern} {place : Place} {found : Match}
    (fits : form.extent (patternAhead place) ≠ some 0)
    (here : matchPattern form place = some found) : found.Advances place := by
  cases extent : form.extent (patternAhead place) with
  | none =>
      rw [matchPattern_of_extent_none extent] at here
      cases here
  | some count =>
      have few := Pattern.extent_le_length extent
      rw [matchPattern_of_extent extent] at here
      split at here
      · cases here
      cases here
      have taken : count ≠ 0 := fun isZero => fits (isZero ▸ extent)
      constructor
      · obtain ⟨c, characters, isCons⟩ := List.exists_cons_of_length_pos
          (Nat.lt_of_lt_of_le (Nat.pos_of_ne_zero taken) few)
        obtain ⟨more, rfl⟩ := Nat.exists_eq_succ_of_ne_zero taken
        exact ⟨c, characters.take more, by rw [isCons, List.take_succ_cons]⟩
      · rw [length_patternAhead] at few
        unfold patternStart at few ⊢
        dsimp only
        omega

/-- A pattern that fits no characters fails on the text, and nowhere else. -/
theorem matchPattern_of_extent_zero {form : Pattern} {place : Place}
    (fits : form.extent (patternAhead place) = some 0) :
    (place.Inside → matchPattern form place = none) ∧
      (¬ place.Inside →
        matchPattern form place = some ⟨.text [], ⟨place.text, patternStart place⟩⟩) := by
  have stays : (patternStart place + (0 : Nat) : Int) = place.offset ↔ place.Inside := by
    rw [Int.natCast_zero, Int.add_zero, patternStart_eq_offset_iff]
  rw [matchPattern_of_extent fits]
  refine ⟨fun inside => if_pos (stays.2 inside), fun outside => ?_⟩
  rw [if_neg (mt stays.1 outside), List.take_zero, Int.natCast_zero, Int.add_zero]

/-- From a place on the text a pattern gets on. -/
theorem advances_of_inside {form : Pattern} {place : Place} {found : Match}
    (inside : place.Inside) (here : matchPattern form place = some found) :
    found.Advances place := by
  refine advances_of_extent_ne_zero (fun fits => ?_) here
  rw [(matchPattern_of_extent_zero fits).1 inside] at here
  cases here

/-- Whatever a pattern succeeds with takes some characters and comes further on, exactly if the
place is on the text or the pattern does not fit the empty text at the nearer end.  Otherwise it
succeeds with no characters and comes to that end, from whichever side. -/
theorem pattern_advances_iff (form : Pattern) (place : Place) :
    ((∀ found, matchPattern form place = some found → found.Advances place) ↔
      place.Inside ∨ form.extent (patternAhead place) ≠ some 0) ∧
    (¬ place.Inside → form.extent (patternAhead place) = some 0 →
      matchPattern form place = some ⟨.text [], ⟨place.text, patternStart place⟩⟩) := by
  refine ⟨⟨fun advances => ?_, ?_⟩, fun outside fits =>
    (matchPattern_of_extent_zero fits).2 outside⟩
  · refine Classical.or_iff_not_imp_left.2 fun outside fits => ?_
    have empty := advances _ ((matchPattern_of_extent_zero fits).2 outside)
    obtain ⟨c, characters, isCons⟩ := empty.takes
    cases isCons
  · rintro (inside | fits) found here
    · exact advances_of_inside inside here
    · exact advances_of_extent_ne_zero fits here

/-- Two characters past the end, digits that may be missing are found there, and the success
comes back to the end. -/
theorem not_advances_past_end :
    ("[0-9]*", ⟨[.digit], 0, none⟩) ∈ Pattern.catalogue ∧
      ∃ found, matchPattern ⟨[.digit], 0, none⟩ (.ofString "abc" 5) = some found ∧
        found.value = .text [] ∧ found.place = .ofString "abc" 3 ∧
        ¬ found.Advances (.ofString "abc" 5) := by
  refine ⟨by decide, ⟨.text [], .ofString "abc" 3⟩, rfl, rfl, rfl, fun advances => ?_⟩
  exact absurd advances.moves (by decide)

mutual

/-- The shape of the recogniser says that its successes take some characters. -/
def consumes {ν : Type} : Recognizer ν → Bool
  | .literal text => !text.isEmpty
  | .pattern _ => true
  | .sequence items => anyConsumes items
  | .choice items => allConsume items
  | .repetition item least _ => 1 ≤ least && item.consumes
  | .acting item _ => item.consumes
  | .deferred _ => false
termination_by structural recognizer => recognizer

/-- Some recogniser consumes. -/
def anyConsumes {ν : Type} : List (Recognizer ν) → Bool
  | [] => false
  | item :: rest => item.consumes || anyConsumes rest
termination_by structural items => items

/-- All recognisers consume. -/
def allConsume {ν : Type} : List (Recognizer ν) → Bool
  | [] => true
  | item :: rest => item.consumes && allConsume rest
termination_by structural items => items

end

theorem allConsume_eq {ν : Type} (items : List (Recognizer ν)) :
    allConsume items = items.all consumes := by
  induction items with
  | nil => rfl
  | cons item rest ih => rw [allConsume, List.all_cons, ih]

/-- A literal that is not empty gets on: it fits into what is left of the text. -/
theorem moves_of_matchLiteral {text : List Char} {start : Place} {found : Match}
    (here : matchLiteral text start = some found) (notEmpty : text ≠ []) (inside : start.Inside) :
    start.offset < found.place.offset := by
  unfold matchLiteral Place.startsWith at here
  split at here
  next fits =>
    cases here
    rw [Bool.and_eq_true, List.isPrefixOf_iff_prefix] at fits
    have size := fits.2.length_le
    have same := Place.boundary_eq_offset inside
    have upper := inside.2
    have some := List.length_pos_iff.2 notEmpty
    rw [Place.ahead, List.length_drop] at size
    simp only [Place.advance]
    omega
  · cases here

/-- A recogniser that consumes gets on with every success.  Where only one part of it is sure to
get on, the other parts do not go back. -/
theorem Yields.moves {ν : Type} {keeps : ν → Recognizer ν → Prop}
    {makes : Action → Value → Value → Prop} {recognizer : Recognizer ν} {start : Place}
    {found : Match} (yields : Yields keeps makes recognizer start found)
    (consuming : recognizer.consumes = true) (inside : start.Inside) :
    start.offset < found.place.offset := by
  induction yields with
  | literal here =>
      rw [consumes, Bool.not_eq_true', List.isEmpty_eq_false_iff] at consuming
      exact moves_of_matchLiteral here consuming inside
  | pattern here => exact (advances_of_inside inside here).moves
  | nothing => cases consuming
  | next head others first behind =>
      have onward := head.onward inside
      have insideToo := onward.inside inside
      rw [consumes, anyConsumes, Bool.or_eq_true] at consuming
      rcases consuming with here | later
      · exact Int.lt_of_lt_of_le (first here inside) (others.onward insideToo).notBack
      · exact Int.lt_of_le_of_lt onward.notBack (behind later insideToo)
  | chosen offered success ih =>
      rw [consumes, allConsume_eq, List.all_eq_true] at consuming
      exact ih (consuming _ offered) inside
  | enough reached =>
      rw [consumes, Bool.and_eq_true, decide_eq_true_eq] at consuming
      omega
  | again allowed head others first behind =>
      have onward := head.onward inside
      rw [consumes, Bool.and_eq_true] at consuming
      exact Int.lt_of_lt_of_le (first consuming.2 inside)
        (others.onward (onward.inside inside)).notBack
  | acted success made ih => exact ih consuming inside
  | followed kept success ih => cases consuming

mutual

/-- Numbering references does not change what consumes. -/
theorem consumes_number : ∀ (recognizer : Recognizer String) (next : Nat),
    (recognizer.number next).1.consumes = recognizer.consumes
  | .literal _, _ => rfl
  | .pattern _, _ => rfl
  | .sequence items, next => (consume_numberAll items next).1
  | .choice items, next => (consume_numberAll items next).2
  | .repetition item least _, next =>
      congrArg (decide (1 ≤ least) && ·) (consumes_number item next)
  | .acting item _, next => consumes_number item next
  | .deferred _, _ => rfl
termination_by structural recognizer => recognizer

theorem consume_numberAll : ∀ (items : List (Recognizer String)) (next : Nat),
    anyConsumes (numberAll items next).1 = anyConsumes items ∧
      allConsume (numberAll items next).1 = allConsume items
  | [], _ => ⟨rfl, rfl⟩
  | item :: rest, next =>
      have here := consumes_number item next
      have others := consume_numberAll rest (item.number next).2
      ⟨congrArg₂ or here others.1, congrArg₂ and here others.2⟩
termination_by structural items => items

end

end PluralForms.Recognizer
